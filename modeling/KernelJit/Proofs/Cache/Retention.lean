/-
A cache whose budget holds all that is compiled.

As long as the texts that the backend has compiled fit into the budget together, nothing
is put out: the size of the cache is their length to the byte, so the next program that
fits beside them finds room at once.  `Retained` is this invariant.  The keys of the
entries are then the keys of the ledger, each once, so a key that has been compiled is
found from then on, and the backend is not asked for it again.
-/
import KernelJit.Proofs.Cache.Ledger
import KernelJit.Proofs.Cache.Representation
import Mathlib.Data.List.Induction

namespace KernelJit
namespace Cache

/-- The bytes of the texts of a ledger. -/
def bytes (programs : List (Fingerprint × Program)) : Nat :=
  (programs.map (·.2.ptx.utf8ByteSize)).sum

theorem bytes_append (a b : List (Fingerprint × Program)) : bytes (a ++ b) = bytes a + bytes b := by
  rw [bytes, bytes, bytes, List.map_append, List.sum_append_nat]

/-- Every program of a ledger is in the cache, each under a key of its own, and the size of
the cache is that of all of them. -/
structure Retained (cache : Cache) (programs : List (Fingerprint × Program)) : Prop where
  keys : cache.entries.map (·.key) = programs.map (·.1)
  nodup : (programs.map (·.1)).Nodup
  size : cache.size.toNat = bytes programs

variable {cache : Cache} {programs : List (Fingerprint × Program)} {key : Fingerprint}
  {program : Program}

theorem retained_ofBytes (budget : Size) (ties : TieBreak) : Retained (ofBytes budget ties) [] :=
  ⟨rfl, List.nodup_nil, rfl⟩

/-! ## One request -/

theorem find?_of_mem_keys (h : Retained cache programs) (hmem : key ∈ programs.map (·.1)) :
    ∃ entry, cache.find? key = some entry := by
  cases hfind : cache.find? key with
  | some entry => exact ⟨entry, rfl⟩
  | none =>
    rw [← h.keys] at hmem
    obtain ⟨entry, hentry, hkey⟩ := List.mem_map.mp hmem
    exact absurd hkey (find?_eq_none_iff.mp hfind entry hentry)

theorem Retained.touch (h : Retained cache programs) (key : Fingerprint) :
    Retained (cache.touch key) programs :=
  ⟨(keys_touch cache key).trans h.keys, h.nodup, h.size⟩

/-- A program that fits beside all others is put beside them, and nothing is put out. -/
theorem Retained.insert (h : Retained cache programs) (hfind : cache.find? key = none)
    (hfits : bytes programs + program.ptx.utf8ByteSize ≤ cache.budget.toNat) :
    Retained (cache.insert key program).state (programs ++ [(key, program)]) ∧
      (cache.insert key program).trace = [] := by
  have hlt := cache.budget.toNat_lt
  have hold := h.size
  have hsize : program.size.toNat = program.ptx.utf8ByteSize :=
    Program.Fits.toNat_size (by unfold Program.Fits; omega)
  -- A sum within the budget is a 64-bit number, so it is not cut.
  have hfit : cache.fits program.size = true := by
    refine decide_eq_true (UInt64.le_iff_toNat_le.mpr ?_)
    rw [Size.toNat_add]
    omega
  have hroom : cache.makeRoom program.size = (cache, []) := evictUpTo_of_fits hfit _
  have habsent := find?_eq_none_iff.mp hfind
  rw [insert_eq, hroom]
  refine ⟨⟨?_, ?_, ?_⟩, rfl⟩
  · show (cache.entries.filter _ ++ [_]).map _ = _
    rw [filter_key_of_absent habsent, List.map_append, List.map_append, h.keys]
    rfl
  · rw [List.map_append]
    refine List.nodup_append.mpr ⟨h.nodup, List.pairwise_singleton _ _, ?_⟩
    intro a ha b hb hab
    rw [List.map_singleton, List.mem_singleton] at hb
    obtain ⟨entry, hentry⟩ := find?_of_mem_keys h (hab.trans hb ▸ ha)
    rw [hfind] at hentry
    cases hentry
  · show (cache.sizeWithout key + program.size).toNat = _
    have hwithout : cache.sizeWithout key = cache.size := by rw [sizeWithout, hfind]
    have hone : bytes [(key, program)] = program.ptx.utf8ByteSize := Nat.add_zero _
    rw [hwithout, UInt64.toNat_add, bytes_append, hone]
    omega

theorem budget_supply (state : Cache × Backend) (request : Request) :
    (supply state request).state.1.budget = state.1.budget :=
  budget_perform state.1 state.2 (.getOrCompile request)

theorem Retained.supply {state : Cache × Backend} (h : Retained state.1 programs)
    {request : Request}
    (hfits : bytes (programs ++ (compiled? state request).toList) ≤ state.1.budget.toNat) :
    Retained (supply state request).state.1 (programs ++ (compiled? state request).toList) ∧
      ∀ key, Event.evicted key ∉ (Cache.supply state request).trace := by
  obtain ⟨entry, _, hnone, hstep⟩ | ⟨program, hfind, hsome, hstep⟩ | ⟨hnone, _, hstate, htrace⟩ :=
    supply_cases state request
  · have htouched := h.touch (Fingerprint.ofRequest request)
    rw [hnone, hstep, Option.toList_none, List.append_nil]
    exact ⟨⟨htouched.keys, htouched.nodup, htouched.size⟩, by simp⟩
  · rw [hsome, Option.toList_some, bytes_append] at hfits
    have hmissed : Retained state.1.missed programs := ⟨h.keys, h.nodup, h.size⟩
    obtain ⟨hretained, htrace⟩ := hmissed.insert hfind hfits
    rw [hsome, hstep, Option.toList_some]
    refine ⟨hretained, ?_⟩
    rw [htrace]
    simp [calling]
  · rw [hnone, hstate, htrace, Option.toList_none, List.append_nil]
    exact ⟨⟨h.keys, h.nodup, h.size⟩, by simp [calling]⟩

/-! ## Runs -/

section

variable {budget : Size} {ties : TieBreak} {backend : Backend} {requests : List Request}

theorem retained_final
    (hfits : bytes (ledger (ofBytes budget ties, backend) requests) ≤ budget.toNat) :
    Retained (Run.final supply (ofBytes budget ties, backend) requests).1
        (ledger (ofBytes budget ties, backend) requests) ∧
      (Run.final supply (ofBytes budget ties, backend) requests).1.budget = budget := by
  -- The run grows at its end, so that what is compiled before fits as well.
  induction requests using List.reverseRecOn with
  | nil => exact ⟨retained_ofBytes budget ties, rfl⟩
  | append_singleton requests request ih =>
    rw [ledger_append, ledger_singleton] at hfits ⊢
    obtain ⟨hretained, hbudget⟩ := ih (by rw [bytes_append] at hfits; omega)
    rw [Run.final_append]
    refine ⟨(hretained.supply ?_).1, (budget_supply _ _).trans hbudget⟩
    rw [hbudget]
    exact hfits

/-- Before each turn of a run that stays within the budget all that was compiled is in the
cache, and the turn puts nothing out. -/
theorem retained_of_split {before after : List Request} {request : Request}
    (hfits : bytes (ledger (ofBytes budget ties, backend) (before ++ request :: after)) ≤
      budget.toNat) :
    Retained (Run.final supply (ofBytes budget ties, backend) before).1
        (ledger (ofBytes budget ties, backend) before) ∧
      ∀ key, Event.evicted key ∉
        (supply (Run.final supply (ofBytes budget ties, backend) before) request).trace := by
  have hsplit : before ++ request :: after = before ++ ([request] ++ after) := rfl
  rw [hsplit, ledger_append, ledger_append, ledger_singleton, ← List.append_assoc,
    bytes_append] at hfits
  have hbefore : bytes (ledger (ofBytes budget ties, backend) before) ≤ budget.toNat := by
    rw [bytes_append] at hfits
    omega
  obtain ⟨hretained, hbudget⟩ := retained_final hbefore
  refine ⟨hretained, (hretained.supply ?_).2⟩
  rw [hbudget]
  omega

theorem supply_of_compiled {before after : List Request} {request : Request}
    (hfits : bytes (ledger (ofBytes budget ties, backend) (before ++ request :: after)) ≤
      budget.toNat)
    (hmem : Fingerprint.ofRequest request ∈
      (ledger (ofBytes budget ties, backend) before).map (·.1)) :
    ∃ program, (supply (Run.final supply (ofBytes budget ties, backend) before) request).result =
        .done program ∧
      (supply (Run.final supply (ofBytes budget ties, backend) before) request).state.2 =
        (Run.final supply (ofBytes budget ties, backend) before).2 ∧
      (supply (Run.final supply (ofBytes budget ties, backend) before) request).trace =
        [.cacheHit request.name (Fingerprint.ofRequest request)] := by
  obtain ⟨entry, hfind⟩ := find?_of_mem_keys (retained_of_split hfits).1 hmem
  rw [show supply _ request = _ from getOrCompile_of_hit hfind]
  exact ⟨entry.program, rfl, rfl, rfl⟩

theorem answered_id_eq_iff
    (hfits : bytes (ledger (ofBytes budget ties, backend) requests) ≤ budget.toNat)
    {s t : Turn Request (Cache × Backend) (Outcome (Shared Program))}
    (hs : s ∈ Run.turns supply (ofBytes budget ties, backend) requests)
    (ht : t ∈ Run.turns supply (ofBytes budget ties, backend) requests)
    {p q : Shared Program} (hp : s.step.result = .done p) (hq : t.step.result = .done q) :
    p.id = q.id ↔ Fingerprint.ofRequest s.command = Fingerprint.ofRequest t.command := by
  constructor
  · exact fun hid => (answered_id_eq hs ht hp hq hid).1
  · intro hkey
    -- Both numbers are places of the one key in the ledger.
    obtain ⟨program, hplace, _⟩ := listed_of_answered hs hp
    obtain ⟨program', hplace', _⟩ := listed_of_answered ht hq
    have hnodup := (retained_final hfits).1.nodup
    have hlt := (List.getElem?_eq_some_iff.mp hplace).1
    refine (List.getElem?_inj (by rwa [List.length_map]) hnodup).mp ?_
    rw [List.getElem?_map, List.getElem?_map, hplace, hplace', hkey]
    rfl

end

/-- A run that puts nothing out.  What has been compiled is in the cache at its end.  A key
that has been compiled before is answered from the cache, and the backend is left alone.  Two
requests are answered with one object exactly if they have one key. -/
structure CompilesOnce (start : Cache × Backend) (requests : List Request) : Prop where
  keeps : ∀ turn ∈ Run.turns supply start requests, ∀ key, Event.evicted key ∉ turn.step.trace
  finds : ∀ key ∈ (ledger start requests).map (·.1),
    ∃ entry, (Run.final supply start requests).1.find? key = some entry
  hits : ∀ before request after, requests = before ++ request :: after →
    Fingerprint.ofRequest request ∈ (ledger start before).map (·.1) →
    ∃ program, (supply (Run.final supply start before) request).result = .done program ∧
      (supply (Run.final supply start before) request).state.2 =
        (Run.final supply start before).2 ∧
      (supply (Run.final supply start before) request).trace =
        [.cacheHit request.name (Fingerprint.ofRequest request)]
  shares : ∀ s ∈ Run.turns supply start requests, ∀ t ∈ Run.turns supply start requests,
    ∀ p q, s.step.result = .done p → t.step.result = .done q →
      (p.id = q.id ↔ Fingerprint.ofRequest s.command = Fingerprint.ofRequest t.command) ∧
      (p.id = q.id → p = q)

theorem compilesOnce_of_bytes_le {budget : Size} {ties : TieBreak} {backend : Backend}
    {requests : List Request}
    (hfits : bytes (ledger (ofBytes budget ties, backend) requests) ≤ budget.toNat) :
    CompilesOnce (ofBytes budget ties, backend) requests where
  keeps turn hmem := by
    obtain ⟨before, after, hsplit, hstep⟩ := Run.exists_of_mem_turns hmem
    rw [hstep]
    exact (retained_of_split (hsplit ▸ hfits)).2
  finds key hmem := find?_of_mem_keys (retained_final hfits).1 hmem
  hits before request after hsplit hmem := supply_of_compiled (hsplit ▸ hfits) hmem
  shares s hs t ht p q hp hq :=
    ⟨answered_id_eq_iff hfits hs ht hp hq, fun hid => (answered_id_eq hs ht hp hq hid).2⟩

end Cache
end KernelJit
