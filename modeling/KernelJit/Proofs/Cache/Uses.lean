/-
How often the entries of a cache were asked for.

An entry counts its uses in a number of its own, and eviction goes by that number.
`requested` counts the same thing on the turns of a run: one for the insertion, and one for
each turn that took the entry's program out of the cache.  Programs are told apart by the
number they were given, not by the key, so an entry that takes the place of another one starts
anew, and a program that was put out and compiled again is another program.

`Tracked` is the invariant that ties the two together.  A turn hands out the program of one
entry and counts one use in that entry alone, because no two entries have a program of the
same number.  A program that is stored has a number that no turn has handed out yet.
-/
import KernelJit.Proofs.Cache.Eviction
import KernelJit.Proofs.Cache.Representation
import Mathlib.Data.List.Induction

namespace KernelJit
namespace Cache

/-- The program that a reply carries. -/
def Reply.program? : Reply → Option (Shared Program)
  | .compiled (.done program) => some program
  | .compiled _ => none
  | .found program => program
  | .stored program => some program
  | .cleared => none

/-- The program that a turn took out of the cache: what a look-up found, or what a request was
answered with on a hit. -/
def reused? (turn : Turn Command (Cache × Backend) Reply) : Option (Shared Program) :=
  match turn.command with
  | .get _ => turn.step.result.program?
  | .getOrCompile _ =>
    if turn.step.trace.any Event.isHit then turn.step.result.program? else none
  | .insert .. => none
  | .clear => none

/-- How often an entry was asked for: once when its program was stored, and once on each turn
that took the program out of the cache. -/
def requested (turns : List (Turn Command (Cache × Backend) Reply)) (entry : Entry) : Nat :=
  1 + turns.countP fun turn => (reused? turn).map (·.id) = some entry.program.id

variable {turns : List (Turn Command (Cache × Backend) Reply)}
  {turn : Turn Command (Cache × Backend) Reply}

theorem requested_concat_of_ne {entry : Entry}
    (h : (reused? turn).map (·.id) ≠ some entry.program.id) :
    requested (turns ++ [turn]) entry = requested turns entry := by
  simp only [requested, List.countP_append, List.countP_singleton, h, decide_false,
    Bool.false_eq_true, if_false, Nat.add_zero]

theorem requested_concat_of_eq {entry : Entry}
    (h : (reused? turn).map (·.id) = some entry.program.id) :
    requested (turns ++ [turn]) entry = requested turns entry + 1 := by
  simp only [requested, List.countP_append, List.countP_singleton, h, decide_true, if_true,
    Nat.add_assoc]

theorem requested_eq_one {entry : Entry}
    (h : ∀ turn ∈ turns, ∀ program, reused? turn = some program →
      program.id ≠ entry.program.id) : requested turns entry = 1 := by
  refine congrArg (1 + ·) (List.countP_eq_zero.mpr fun turn hturn heq => ?_)
  obtain ⟨program, hprogram, hid⟩ := Option.map_eq_some_iff.mp (of_decide_eq_true heq)
  exact h turn hturn program hprogram hid

/-! ## What a turn does -/

theorem serve_get (state : Cache × Backend) (key : Fingerprint) :
    serve state (.get key) =
      .unchanged ((state.1.get key).2, state.2) (.found (state.1.get key).1) := rfl

theorem serve_getOrCompile (state : Cache × Backend) (request : Request) :
    serve state (.getOrCompile request) =
      (state.1.getOrCompile state.2 request).map .compiled := rfl

/-- A command that comes to an insertion answers with the program that is stored, and takes
none out of the cache.  What is put out is put out by the insertion. -/
theorem serve_of_insertion? {state : Cache × Backend} {command : Command} {into : Cache}
    {key : Fingerprint} {program : Program}
    (h : command.insertion? state.1 state.2 = some (into, key, program)) :
    (into = state.1 ∨ into = state.1.missed) ∧
      reused? ⟨command, serve state command⟩ = none ∧
      (serve state command).state.1 = (into.insert key program).state ∧
      (serve state command).result.program? = some (into.insert key program).result ∧
      ∃ before, (∀ event ∈ before, event.isEviction = false) ∧
        (serve state command).trace = before ++ (into.insert key program).trace := by
  cases command with
  | get key => cases h
  | clear => cases h
  | insert key program =>
    cases h
    exact ⟨Or.inl rfl, rfl, rfl, rfl, [], List.forall_mem_nil _, rfl⟩
  | getOrCompile request =>
    rw [Command.insertion?] at h
    cases hfind : state.1.find? (Fingerprint.ofRequest request) with
    | some entry =>
      rw [hfind] at h
      cases h
    | none =>
      cases hanswer : state.2.answer state.2.received request with
      | failed failure =>
        rw [hfind, hanswer] at h
        cases h
      | crashed text =>
        rw [hfind, hanswer] at h
        cases h
      | done compiled =>
        rw [hfind, hanswer] at h
        cases h
        have hcalling : ∀ event ∈ calling state.2 request,
            event.isHit = false ∧ event.isEviction = false := by
          intro event hmem
          simp only [calling, List.mem_cons, List.not_mem_nil, or_false] at hmem
          rcases hmem with rfl | rfl <;> exact ⟨rfl, rfl⟩
        rw [serve_getOrCompile, getOrCompile_of_done hfind hanswer]
        refine ⟨Or.inr rfl, if_neg fun hany => ?_, rfl, rfl, calling state.2 request,
          fun event hmem => (hcalling event hmem).2, rfl⟩
        obtain ⟨event, hmem, hhit⟩ := List.any_eq_true.mp hany
        rcases List.mem_append.mp hmem with hbefore | hevicted
        · rw [(hcalling event hbefore).1] at hhit
          cases hhit
        · obtain ⟨key, rfl⟩ := evicted_of_mem_makeRoom hevicted
          cases hhit

/-- A command that comes to no insertion uses the entry whose program it takes out, and no
other.  If it takes none out, then the entries stay as they are, or all of them go. -/
theorem serve_of_no_insertion {state : Cache × Backend} {command : Command}
    (h : command.insertion? state.1 state.2 = none) :
    (∃ key entry hits, state.1.find? key = some entry ∧
      reused? ⟨command, serve state command⟩ = some entry.program ∧
      (serve state command).state.1 = { state.1.touch key with hits }) ∨
    (reused? ⟨command, serve state command⟩ = none ∧
      ((∃ misses, (serve state command).state.1 = { state.1 with misses }) ∨
        (serve state command).state.1 = state.1.clear)) := by
  cases command with
  | insert key program => cases h
  | clear => exact Or.inr ⟨rfl, Or.inr rfl⟩
  | get key =>
    rw [serve_get]
    cases hfind : state.1.find? key with
    | some entry =>
      rw [get, hfind]
      exact Or.inl ⟨key, entry, _, hfind, rfl, rfl⟩
    | none =>
      rw [get, hfind]
      exact Or.inr ⟨rfl, Or.inl ⟨_, rfl⟩⟩
  | getOrCompile request =>
    rw [Command.insertion?] at h
    rw [serve_getOrCompile]
    cases hfind : state.1.find? (Fingerprint.ofRequest request) with
    | some entry =>
      rw [getOrCompile_of_hit hfind]
      exact Or.inl ⟨_, entry, _, hfind, rfl, rfl⟩
    | none =>
      cases hanswer : state.2.answer state.2.received request with
      | done program =>
        rw [hfind, hanswer] at h
        cases h
      | failed failure =>
        rw [getOrCompile_of_failed hfind hanswer]
        exact Or.inr ⟨rfl, Or.inl ⟨_, rfl⟩⟩
      | crashed text =>
        rw [getOrCompile_of_crashed hfind hanswer]
        exact Or.inr ⟨rfl, Or.inl ⟨_, rfl⟩⟩

/-! ## The counts of a cache -/

/-- The counts in the entries are the counts of the turns. -/
structure Tracked (cache : Cache) (turns : List (Turn Command (Cache × Backend) Reply)) :
    Prop where
  keys : cache.Distinct
  ids : (cache.entries.map (·.program.id)).Nodup
  older : ∀ entry ∈ cache.entries, entry.program.id < cache.stored
  taken : ∀ turn ∈ turns, ∀ program, reused? turn = some program → program.id < cache.stored
  uses : ∀ entry ∈ cache.entries, entry.uses = UInt64.ofNat (requested turns entry)

namespace Tracked

variable {cache : Cache}

theorem ofBytes (budget : Size) (ties : TieBreak) : Tracked (ofBytes budget ties) [] where
  keys := List.nodup_nil
  ids := List.nodup_nil
  older := List.forall_mem_nil _
  taken := List.forall_mem_nil _
  uses := List.forall_mem_nil _

theorem counters (h : Tracked cache turns) (hits misses : UInt64) :
    Tracked { cache with hits, misses } turns :=
  ⟨h.keys, h.ids, h.older, h.taken, h.uses⟩

theorem clear (h : Tracked cache turns) : Tracked cache.clear turns :=
  ⟨List.nodup_nil, List.nodup_nil, List.forall_mem_nil _, h.taken, List.forall_mem_nil _⟩

theorem concat (h : Tracked cache turns) (hnone : reused? turn = none) :
    Tracked cache (turns ++ [turn]) := by
  refine ⟨h.keys, h.ids, h.older, ?_, ?_⟩
  · intro later hmem program hprogram
    rcases List.mem_append.mp hmem with hbefore | hlast
    · exact h.taken later hbefore program hprogram
    · rw [List.mem_singleton.mp hlast, hnone] at hprogram
      cases hprogram
  · intro entry hmem
    rw [requested_concat_of_ne (by simp [hnone])]
    exact h.uses entry hmem

theorem touch (h : Tracked cache turns) {key : Fingerprint} {entry : Entry}
    (hfind : cache.find? key = some entry) (hreused : reused? turn = some entry.program) :
    Tracked (cache.touch key) (turns ++ [turn]) := by
  have hids : (cache.touch key).entries.map (·.program.id) =
      cache.entries.map (·.program.id) := by
    show (cache.entries.map _).map _ = _
    rw [List.map_map]
    refine List.map_congr_left fun other _ => ?_
    show (if other.key = key then other.use else other).program.id = _
    split <;> rfl
  have hcount : (reused? turn).map (·.id) = some entry.program.id := by
    rw [hreused]
    rfl
  refine ⟨?_, ?_, ?_, ?_, ?_⟩
  · rw [Distinct, keys_touch]
    exact h.keys
  · rw [hids]
    exact h.ids
  · exact forall_touch (P := fun entry => entry.program.id < cache.stored)
      (fun _ hlt => hlt) h.older key
  · intro later hmem program hprogram
    rcases List.mem_append.mp hmem with hbefore | hlast
    · exact h.taken later hbefore program hprogram
    · rw [List.mem_singleton.mp hlast, hreused] at hprogram
      cases hprogram
      exact h.older entry (mem_of_find? hfind)
  · -- The entry under the key is the only one with a program of its number, so the turn counts
    -- for it and for no other.
    intro used hmem
    obtain ⟨other, hother, rfl⟩ := List.mem_map.mp hmem
    by_cases hkey : other.key = key
    · have hsame : other = entry := List.inj_on_of_nodup_map h.keys hother (mem_of_find? hfind)
        (hkey.trans (key_of_find? hfind).symm)
      subst hsame
      rw [if_pos hkey]
      show other.uses + 1 = UInt64.ofNat (requested (turns ++ [turn]) other)
      rw [requested_concat_of_eq hcount, UInt64.ofNat_add, h.uses other hother]
      rfl
    · rw [if_neg hkey, requested_concat_of_ne]
      · exact h.uses other hother
      · intro hid
        have hsame : entry = other := List.inj_on_of_nodup_map h.ids (mem_of_find? hfind) hother
          (Option.some.inj (hcount.symm.trans hid))
        exact hkey (hsame ▸ key_of_find? hfind)

theorem insert (h : Tracked cache turns) (key : Fingerprint) (program : Program) :
    Tracked (cache.insert key program).state turns := by
  obtain ⟨kept, hkept, hother, hentries⟩ := entries_insert cache key program
  have hstored := stored_insert cache key program
  refine ⟨distinct_insert h.keys key program, ?_, ?_, ?_, ?_⟩
  · rw [hentries, List.map_append]
    refine List.nodup_append.mpr ⟨h.ids.sublist (hkept.map _), List.pairwise_singleton _ _, ?_⟩
    intro a ha b hb
    obtain ⟨entry, hentry, rfl⟩ := List.mem_map.mp ha
    rw [List.mem_singleton.mp hb]
    exact Nat.ne_of_lt (h.older entry (hkept.subset hentry))
  · intro entry hmem
    rw [hstored]
    rcases mem_of_mem_insert hmem with hold | rfl
    · exact Nat.lt_succ_of_lt (h.older entry hold)
    · exact Nat.lt_succ_self _
  · intro turn hmem program' hprogram
    rw [hstored]
    exact Nat.lt_succ_of_lt (h.taken turn hmem program' hprogram)
  · intro entry hmem
    rcases mem_of_mem_insert hmem with hold | rfl
    · exact h.uses entry hold
    · -- The number of the new program is above all that were handed out.
      rw [requested_eq_one]
      · rfl
      · exact fun turn hturn program' hprogram => Nat.ne_of_lt (h.taken turn hturn _ hprogram)

end Tracked

theorem tracked_serve {state : Cache × Backend} (h : Tracked state.1 turns) (command : Command) :
    Tracked (serve state command).state.1 (turns ++ [⟨command, serve state command⟩]) := by
  cases hinsertion : command.insertion? state.1 state.2 with
  | some insertion =>
    obtain ⟨into, key, program⟩ := insertion
    obtain ⟨hinto, hreused, hstate, _⟩ := serve_of_insertion? hinsertion
    rw [hstate]
    rcases hinto with rfl | rfl
    · exact (h.insert key program).concat hreused
    · exact ((h.counters _ _).insert key program).concat hreused
  | none =>
    obtain ⟨key, entry, hits, hfind, hreused, hstate⟩ | ⟨hreused, ⟨misses, hstate⟩ | hstate⟩ :=
      serve_of_no_insertion hinsertion
    · rw [hstate]
      exact (h.touch hfind hreused).counters hits _
    · rw [hstate]
      exact (h.counters _ misses).concat hreused
    · rw [hstate]
      exact h.clear.concat hreused

/-- The counts in the entries of a cache are those of the run that led to it. -/
theorem tracked_reached (budget : Size) (ties : TieBreak) (backend : Backend)
    (commands : List Command) :
    Tracked (reached budget ties backend commands).1
      (Run.turns serve (ofBytes budget ties, backend) commands) := by
  induction commands using List.reverseRecOn with
  | nil => exact .ofBytes budget ties
  | append_singleton commands command ih =>
    rw [reached, Run.final_append, Run.turns_append]
    exact tracked_serve ih command

end Cache
end KernelJit
