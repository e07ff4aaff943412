/-
What a replacement costs the entries under other keys.

Room is made before the entry that a program replaces is taken out, so as long as room is made
both programs count.  Let the program fit beside the entries under the other keys.  Then the loop
comes to one of three ends (`Evicts.replacing_cases`).  Nothing has to go.  Or the first victim is
the entry that is replaced, and what it leaves is room enough.  Or the first victim is another
entry, which is lost although the program would have fitted without that.  So the others all stay
in the first two cases and in no other one, and which case it is depends on the uses of all
entries together and on the tie-break (`replaced_beside_others_iff`).
-/
import KernelJit.Proofs.Cache.LeastUsed

namespace KernelJit
namespace Cache

/-- The entries under other keys than a given one. -/
def others (cache : Cache) (key : Fingerprint) : List Entry :=
  cache.entries.filter (·.key ≠ key)

variable {cache after : Cache} {size : Size} {gone : List Entry} {key : Fingerprint} {old : Entry}
  {program : Program}

theorem mem_others {entry : Entry} :
    entry ∈ cache.others key ↔ entry ∈ cache.entries ∧ entry.key ≠ key := by
  rw [others, List.mem_filter, decide_eq_true_eq]

/-! ## Whether a program fits -/

/-- A sum of sizes that is cut at the largest size fits the largest budget and no other one. -/
theorem fits_iff (h : Counted cache) : cache.fits size = true ↔
    total cache.entries + size.toNat ≤ cache.budget.toNat ∨ cache.budget.toNat = 2 ^ 64 - 1 := by
  have hlt := cache.budget.toNat_lt
  rw [fits, decide_eq_true_iff, UInt64.le_iff_toNat_le, Size.toNat_add, h.size]
  omega

theorem fits_of_largest_budget (h : cache.budget.toNat = 2 ^ 64 - 1) (size : Size) :
    cache.fits size = true := by
  refine decide_eq_true (UInt64.le_iff_toNat_le.mpr ?_)
  rw [h]
  exact Nat.le_pred_of_lt (Size.add cache.size size).toNat_lt

/-! ## The ways to make room -/

/-- Nothing goes, or only the entry that is replaced, or first of all another entry. -/
theorem Evicts.replacing_cases (h : Evicts size cache gone after) (hcounted : Counted cache)
    (hfind : cache.find? key = some old)
    (hroom : total (cache.others key) + size.toNat ≤ cache.budget.toNat) :
    (cache.fits size = true ∧ gone = []) ∨
    (cache.fits size = false ∧ cache.victim? = some old ∧ gone = [old]) ∨
    ∃ first ∈ gone, cache.fits size = false ∧ cache.victim? = some first ∧ first.key ≠ key := by
  cases h with
  | stop hstop =>
    refine Or.inl ⟨hstop.resolve_right ?_, rfl⟩
    exact List.ne_nil_of_mem (mem_of_find? hfind)
  | @next _ _ first gone hfull hvictim hrest =>
    by_cases hkey : first.key = key
    · -- With the entry that is replaced gone, only the others are left.
      have hold : first = old := List.inj_on_of_nodup_map hcounted.keys (mem_of_victim? hvictim)
        (mem_of_find? hfind) (hkey.trans (key_of_find? hfind).symm)
      subst hold
      have hfits : (cache.evict first).fits size = true := by
        refine fits_of_total_le (hcounted.evict (mem_of_victim? hvictim)) ?_
        rw [← hkey] at hroom
        exact hroom
      exact Or.inr (Or.inl ⟨hfull, hvictim, by rw [hrest.gone_eq_nil hfits]⟩)
    · exact Or.inr (Or.inr ⟨first, List.mem_cons_self, hfull, hvictim, hkey⟩)

/-! ## What is left behind -/

theorem entries_insert_eq (h : Evicts program.size cache gone (cache.makeRoom program.size).1) :
    (cache.insert key program).state.entries =
      (cache.others key).filter (fun entry => ∀ other ∈ gone, entry.key ≠ other.key) ++
        [Entry.fresh key program cache.stored] := by
  rw [insert_state, stored_makeRoom]
  show (cache.makeRoom program.size).1.entries.filter _ ++ [_] = _
  rw [h.entries, others, List.filter_filter, List.filter_filter]
  simp only [Bool.and_comm]
  rfl

theorem entries_insert_of_gone
    (h : Evicts program.size cache gone (cache.makeRoom program.size).1)
    (hgone : ∀ entry ∈ gone, entry.key = key) :
    (cache.insert key program).state.entries =
      cache.others key ++ [Entry.fresh key program cache.stored] := by
  rw [entries_insert_eq h]
  refine congrArg (· ++ _) (List.filter_eq_self.mpr fun entry hmem => decide_eq_true ?_)
  intro other hother hsame
  exact (mem_others.mp hmem).2 (hsame.trans (hgone other hother))

theorem entries_insert_of_fits (h : cache.fits program.size = true) (key : Fingerprint) :
    (cache.insert key program).state.entries =
      cache.others key ++ [Entry.fresh key program cache.stored] := by
  obtain ⟨gone, hevicts, _⟩ := evicts_makeRoom cache program.size
  refine entries_insert_of_gone hevicts ?_
  rw [hevicts.gone_eq_nil h]
  exact List.forall_mem_nil _

theorem not_mem_insert_of_gone
    (h : Evicts program.size cache gone (cache.makeRoom program.size).1) {entry : Entry}
    (hgone : entry ∈ gone) (hkey : entry.key ≠ key) :
    entry ∉ (cache.insert key program).state.entries := by
  rw [entries_insert_eq h, List.mem_append, List.mem_filter, List.mem_singleton]
  rintro (⟨_, hkept⟩ | rfl)
  · exact of_decide_eq_true hkept entry hgone rfl
  · exact hkey rfl

/-- Either the others all stay, or the first of them that goes was used no more than the entry
that is replaced. -/
theorem insert_replacing_cases (hcounted : Counted cache) (hfind : cache.find? key = some old)
    (hroom : total (cache.others key) + program.size.toNat ≤ cache.budget.toNat) :
    ((cache.fits program.size = true ∨ cache.victim? = some old) ∧
      (cache.insert key program).state.entries =
        cache.others key ++ [Entry.fresh key program cache.stored]) ∨
    (¬(cache.fits program.size = true ∨ cache.victim? = some old) ∧
      ∃ lost ∈ cache.others key, lost ∉ (cache.insert key program).state.entries ∧
        lost.uses ≤ old.uses) := by
  obtain ⟨gone, hevicts, _⟩ := evicts_makeRoom cache program.size
  obtain ⟨hfits, _⟩ | ⟨_, hvictim, rfl⟩ | ⟨first, hgone, hfull, hvictim, hkey⟩ :=
    hevicts.replacing_cases hcounted hfind hroom
  · exact Or.inl ⟨Or.inl hfits, entries_insert_of_fits hfits key⟩
  · refine Or.inl ⟨Or.inr hvictim, entries_insert_of_gone hevicts ?_⟩
    intro entry hmem
    rw [List.mem_singleton.mp hmem]
    exact key_of_find? hfind
  · refine Or.inr ⟨?_, first, mem_others.mpr ⟨mem_of_victim? hvictim, hkey⟩,
      not_mem_insert_of_gone hevicts hgone hkey, uses_victim?_le hvictim (mem_of_find? hfind)⟩
    rintro (hfits | hother)
    · cases hfits.symm.trans hfull
    · obtain rfl := Option.some.inj (hvictim.symm.trans hother)
      exact hkey (key_of_find? hfind)

/-! ## Runs -/

theorem budget_reached (budget : Size) (ties : TieBreak) (backend : Backend)
    (commands : List Command) : (reached budget ties backend commands).1.budget = budget := by
  refine Run.final_of_preserved (P := fun state : Cache × Backend => state.1.budget = budget) rfl ?_
  intro state turn _ hbudget hturn
  rw [hturn]
  exact (budget_perform state.1 state.2 turn.command).trans hbudget

/-- The same two ways in a cache that a run has led to, in bytes. -/
theorem replacing_cases_reached {budget : Size} {ties : TieBreak} {backend : Backend}
    {commands : List Command}
    (hbackend : ∀ received request program,
      backend.answer received request = .done program → program.Fits)
    (hcommands : ∀ key program, Command.insert key program ∈ commands → program.Fits)
    (hcache : cache = (reached budget ties backend commands).1)
    (hfind : cache.find? key = some old)
    (hroom : total (cache.others key) + program.size.toNat ≤ budget.toNat) :
    ((total cache.entries + program.size.toNat ≤ budget.toNat ∨
        budget.toNat = 2 ^ 64 - 1 ∨ cache.victim? = some old) ∧
      (cache.insert key program).state.entries =
        cache.others key ++ [Entry.fresh key program cache.stored]) ∨
    (¬(total cache.entries + program.size.toNat ≤ budget.toNat ∨
        budget.toNat = 2 ^ 64 - 1 ∨ cache.victim? = some old) ∧
      ∃ lost ∈ cache.others key, lost ∉ (cache.insert key program).state.entries ∧
        lost.uses ≤ old.uses) := by
  have hbudget : cache.budget = budget := hcache ▸ budget_reached budget ties backend commands
  by_cases hmax : budget.toNat = 2 ^ 64 - 1
  · -- Under the largest budget the counter of the size is not asked to be right.
    refine Or.inl ⟨Or.inr (Or.inl hmax), ?_⟩
    exact entries_insert_of_fits (fits_of_largest_budget (hbudget ▸ hmax) _) key
  · have htotal : budget.toNat = 2 ^ 64 - 1 →
        ∀ turn ∈ Run.turns serve (ofBytes budget ties, backend) commands,
          total turn.step.state.1.entries < 2 ^ 64 := fun h => absurd h hmax
    obtain ⟨_, _, hrepresented⟩ := represented_reached hbackend hcommands htotal
    have hcounted : Counted cache := hcache ▸ hrepresented.toCounted
    rw [← hbudget, ← or_assoc, ← fits_iff hcounted]
    exact insert_replacing_cases hcounted hfind (hbudget ▸ hroom)

/-- In a cache that any run has led to, let a program replace one under its key, and let it fit
beside the entries under the other keys.  Then the key holds the new program, and the others all
stay exactly if both programs under the key fit beside them, or the budget is the largest one, or
the entry that is replaced is the next to be put out.  If they stay they do so with their programs
and their uses, and in their order.  If not, one is lost that was used no more than the entry that
is replaced.  Texts have 64-bit lengths. -/
theorem others_kept_iff {budget : Size} {ties : TieBreak} {backend : Backend}
    {commands : List Command} {key : Fingerprint} {old : Entry} {program : Program}
    (hbackend : ∀ received request program,
      backend.answer received request = .done program → program.Fits)
    (hcommands : ∀ key program, Command.insert key program ∈ commands → program.Fits)
    (hfind : (reached budget ties backend commands).1.find? key = some old)
    (hroom : total ((reached budget ties backend commands).1.others key) +
      program.ptx.utf8ByteSize ≤ budget.toNat) :
    let cache := (reached budget ties backend commands).1
    let after := (cache.insert key program).state
    let stored := Entry.fresh key program cache.stored
    after.find? key = some stored ∧
    ((∀ entry ∈ cache.others key, entry ∈ after.entries) ↔
      total cache.entries + program.ptx.utf8ByteSize ≤ budget.toNat ∨
        budget.toNat = 2 ^ 64 - 1 ∨ cache.victim? = some old) ∧
    ((∀ entry ∈ cache.others key, entry ∈ after.entries) →
      after.entries = cache.others key ++ [stored]) ∧
    ((∃ entry ∈ cache.others key, entry ∉ after.entries) →
      ∃ lost ∈ cache.others key, lost ∉ after.entries ∧ lost.uses ≤ old.uses) := by
  intro cache after stored
  have hlt := budget.toNat_lt
  have hfits : program.Fits := by
    unfold Program.Fits
    omega
  rw [← hfits.toNat_size] at hroom ⊢
  refine ⟨find?_insert cache key program, ?_⟩
  obtain ⟨hways, hentries⟩ | ⟨hnone, lost, hother, hlost, huses⟩ :=
    replacing_cases_reached hbackend hcommands rfl hfind hroom
  · have hkept : ∀ entry ∈ cache.others key, entry ∈ after.entries := by
      intro entry hmem
      rw [hentries]
      exact List.mem_append_left _ hmem
    exact ⟨iff_of_true hkept hways, fun _ => hentries,
      fun ⟨entry, hmem, hgone⟩ => absurd (hkept entry hmem) hgone⟩
  · have hnot : ¬∀ entry ∈ cache.others key, entry ∈ after.entries :=
      fun hkept => hlost (hkept lost hother)
    exact ⟨iff_of_false hnot hnone, fun hkept => absurd hkept hnot,
      fun _ => ⟨lost, hother, hlost, huses⟩⟩

/-- The entry that is replaced is the one that was used least, and the others stay although both
of its programs would not fit. -/
theorem others_kept_iff_victim_replaced :
    let program (ptx : String) : Program := { ptx, device := 0, variant := 0 }
    let key (byte : UInt8) : Fingerprint := ⟨.replicate 32 byte⟩
    let commands : List Command :=
      [.insert (key 1) (program "aaa"), .insert (key 2) (program "bbbb"),
        .insert (key 3) (program "cc"), .get (key 1), .get (key 3)]
    let cache := (reached 10 .oldest (.constant "abc") commands).1
    let after := (cache.insert (key 2) (program "BBBBB")).state
    10 < total cache.entries + "BBBBB".utf8ByteSize ∧
      after.find? (key 2) = some (Entry.fresh (key 2) (program "BBBBB") cache.stored) ∧
      ∀ entry ∈ cache.others (key 2), entry ∈ after.entries := by
  intro program key commands cache after
  have hcommands : ∀ key program, Command.insert key program ∈ commands → program.Fits := by
    intro key program hmem
    simp only [commands, List.mem_cons, Command.insert.injEq, reduceCtorEq, List.not_mem_nil,
      or_false] at hmem
    rcases hmem with ⟨_, rfl⟩ | ⟨_, rfl⟩ | ⟨_, rfl⟩ <;>
      · show String.utf8ByteSize _ < 2 ^ 64
        decide
  have hvictim : cache.victim? = cache.find? (key 2) := by decide +kernel
  have hsome : (cache.find? (key 2)).isSome = true := by decide +kernel
  obtain ⟨old, hfind⟩ := Option.isSome_iff_exists.mp hsome
  have hroom : total (cache.others (key 2)) + (program "BBBBB").ptx.utf8ByteSize ≤
      (10 : Size).toNat := by decide +kernel
  have hfull : 10 < total cache.entries + "BBBBB".utf8ByteSize := by decide +kernel
  obtain ⟨hstored, hiff, _⟩ := others_kept_iff (Backend.fits_constant (by decide)) hcommands hfind hroom
  have hcache : cache = (reached 10 .oldest (.constant "abc") commands).1 := rfl
  have hafter : after = (cache.insert (key 2) (program "BBBBB")).state := rfl
  rw [← hcache, ← hafter] at hiff
  exact ⟨hfull, hstored, hiff.mpr (Or.inr (Or.inr (hvictim.trans hfind)))⟩

/-- The program fits beside the entry under the other key, which is lost all the same: it was used
less than the entry that is replaced. -/
theorem other_lost_without_need :
    let program (ptx : String) : Program := { ptx, device := 0, variant := 0 }
    let key (byte : UInt8) : Fingerprint := ⟨.replicate 32 byte⟩
    let commands : List Command :=
      [.insert (key 1) (program "oooo"), .insert (key 2) (program "aaaa"), .get (key 2)]
    let cache := (reached 10 .oldest (.constant "abc") commands).1
    let after := (cache.insert (key 2) (program "AAAA")).state
    (cache.find? (key 2)).isSome = true ∧
      total (cache.others (key 2)) + "AAAA".utf8ByteSize ≤ 10 ∧
      ∃ entry ∈ cache.others (key 2), entry ∉ after.entries := by
  decide +kernel

end Cache
end KernelJit
