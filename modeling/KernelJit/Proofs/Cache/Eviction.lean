/-
Which entries go when room is made.

With no two entries under one key, what was there is what is gone and what is left
(`Evicts.perm`).  The candidates only get fewer, so their least count can only go up: no count
that is gone is above one that is left (`Evicts.uses_le`), and the last one to go has the
highest count of those that are gone.  It had to go (`Evicts.overflow`): before its turn the
program did not fit.
-/
import KernelJit.Proofs.Cache.Account

namespace KernelJit
namespace Cache

/-! ## One eviction -/

theorem uses_victim?_le {cache : Cache} {entry other : Entry} (h : cache.victim? = some entry)
    (hmem : other ∈ cache.entries) : entry.uses ≤ other.uses := by
  have hleast := (List.mem_filter.mp (List.mem_of_getElem? h)).2
  exact of_decide_eq_true (List.all_eq_true.mp hleast other hmem)

/-! ## The loop -/

namespace Evicts

variable {size : Size} {cache after : Cache} {gone : List Entry}

theorem perm (h : Evicts size cache gone after) (hkeys : cache.Distinct) :
    (gone ++ after.entries).Perm cache.entries := by
  induction h with
  | stop => exact List.Perm.refl _
  | next _ hvictim _ ih =>
    exact ((ih (distinct_evict hkeys _)).cons _).trans
      (perm_filter_key hkeys (mem_of_victim? hvictim))

theorem mem (h : Evicts size cache gone after) :
    ∀ entry ∈ gone ++ after.entries, entry ∈ cache.entries := by
  induction h with
  | stop => exact fun entry hmem => hmem
  | next _ hvictim _ ih =>
    intro entry hmem
    rcases List.mem_cons.mp hmem with rfl | hrest
    · exact mem_of_victim? hvictim
    · exact (mem_evict.mp (ih entry hrest)).1

theorem gone_eq_nil (h : Evicts size cache gone after) (hfits : cache.fits size = true) :
    gone = [] := by
  cases h with
  | stop => rfl
  | next hfull => cases hfits.symm.trans hfull

theorem uses_le (h : Evicts size cache gone after) {entry other : Entry} (hgone : entry ∈ gone)
    (hleft : other ∈ after.entries) : entry.uses ≤ other.uses := by
  induction h with
  | stop => exact absurd hgone List.not_mem_nil
  | next _ hvictim hrest ih =>
    rcases List.mem_cons.mp hgone with rfl | hlater
    · have hmem := hrest.mem other (List.mem_append_right _ hleft)
      exact uses_victim?_le hvictim (mem_evict.mp hmem).1
    · exact ih hlater hleft

/-- What is left is what stands under other keys than those that are gone. -/
theorem entries (h : Evicts size cache gone after) :
    after.entries = cache.entries.filter fun entry => ∀ other ∈ gone, entry.key ≠ other.key := by
  induction h with
  | stop => simp
  | next _ _ _ ih =>
    rw [ih]
    show (List.filter _ _).filter _ = _
    rw [List.filter_filter]
    refine List.filter_congr fun entry _ => ?_
    simp only [List.forall_mem_cons, Bool.decide_and, Bool.and_comm]

/-- The last entry that is put out has been used as often as any other that is, and it was
in the way: with it still there, the program would exceed the budget. -/
theorem overflow (h : Evicts size cache gone after) (hcounted : Counted cache)
    (hsome : gone ≠ []) :
    ∃ entry ∈ gone, (∀ other ∈ gone, other.uses ≤ entry.uses) ∧
      cache.budget.toNat < total after.entries + entry.size.toNat + size.toNat := by
  induction h with
  | stop => exact absurd rfl hsome
  | @next cache after entry gone hfull hvictim hrest ih =>
    by_cases hlast : gone = []
    · -- The victim is the last one: the program fits without it, and did not fit with it.
      subst hlast
      cases hrest with
      | stop =>
        refine ⟨entry, List.mem_cons_self, ?_, ?_⟩
        · intro other hother
          rw [List.mem_singleton.mp hother]
          exact UInt64.le_refl _
        · have hsum := total_filter_key hcounted.keys (mem_of_victim? hvictim)
          have hsize := hcounted.size
          have hover : ¬Size.add cache.size size ≤ cache.budget := of_decide_eq_false hfull
          rw [UInt64.le_iff_toNat_le, Size.toNat_add] at hover
          show _ < total (cache.entries.filter _) + _ + _
          omega
    · obtain ⟨final, hmem, hmost, hover⟩ :=
        ih (hcounted.evict (mem_of_victim? hvictim)) hlast
      refine ⟨final, List.mem_cons_of_mem _ hmem, ?_, hover⟩
      intro other hother
      rcases List.mem_cons.mp hother with rfl | hlater
      · -- The last one was there at the turn of the first one, which was among the least used.
        have hthere := hrest.mem final (List.mem_append_left _ hmem)
        exact uses_victim?_le hvictim (mem_evict.mp hthere).1
      · exact hmost other hlater

end Evicts

/-! ## Storing -/

/-- An insertion keeps some of the entries as they are, and puts one more after them. -/
theorem entries_insert (cache : Cache) (key : Fingerprint) (program : Program) :
    ∃ kept, kept.Sublist cache.entries ∧ (∀ entry ∈ kept, entry.key ≠ key) ∧
      (cache.insert key program).state.entries =
        kept ++ [Entry.fresh key program cache.stored] := by
  obtain ⟨gone, hevicts, _⟩ := evicts_makeRoom cache program.size
  refine ⟨(cache.makeRoom program.size).1.entries.filter (·.key ≠ key), ?_, ?_, ?_⟩
  · rw [hevicts.entries]
    exact List.filter_sublist.trans List.filter_sublist
  · intro entry hmem
    exact of_decide_eq_true (List.mem_filter.mp hmem).2
  · rw [insert_state, stored_makeRoom]
    rfl

theorem find?_insert (cache : Cache) (key : Fingerprint) (program : Program) :
    (cache.insert key program).state.find? key =
      some (Entry.fresh key program cache.stored) := by
  obtain ⟨kept, _, hother, hentries⟩ := entries_insert cache key program
  have hnone : kept.find? (·.key == key) = none := by
    refine List.find?_eq_none.mpr fun entry hmem => ?_
    rw [beq_iff_eq]
    exact hother entry hmem
  rw [find?, hentries, List.find?_append, hnone, Option.none_or]
  exact List.find?_cons_of_pos (beq_self_eq_true key)

theorem distinct_insert {cache : Cache} (h : cache.Distinct) (key : Fingerprint)
    (program : Program) : (cache.insert key program).state.Distinct := by
  have hroom : (cache.makeRoom program.size).1.Distinct :=
    evictUpTo_of_preserved (P := Distinct) (fun _ entry _ hkeys => distinct_evict hkeys entry)
      h program.size _
  exact distinct_put hroom key _ _

theorem stored_insert (cache : Cache) (key : Fingerprint) (program : Program) :
    (cache.insert key program).state.stored = cache.stored + 1 :=
  congrArg (· + 1) (stored_makeRoom cache program.size)

/-- A program under a new key adds one entry to those that are not put out for it. -/
theorem length_insert {cache : Cache} (h : cache.Distinct) {key : Fingerprint}
    (hfind : cache.find? key = none) (program : Program) :
    (cache.insert key program).state.entries.length + (cache.insert key program).trace.length =
      cache.entries.length + 1 := by
  obtain ⟨gone, hevicts, htrace⟩ := evicts_makeRoom cache program.size
  have hcount := (hevicts.perm h).length_eq
  have habsent : ∀ entry ∈ (cache.makeRoom program.size).1.entries, entry.key ≠ key := by
    intro entry hmem
    exact find?_eq_none_iff.mp hfind entry (hevicts.mem entry (List.mem_append_right _ hmem))
  have hkept : (cache.makeRoom program.size).1.entries.filter (·.key ≠ key) =
      (cache.makeRoom program.size).1.entries := filter_key_of_absent habsent
  rw [insert_eq]
  show ((cache.makeRoom program.size).1.entries.filter _ ++ [_]).length + _ = _
  rw [hkept, htrace, List.length_map, List.length_append, List.length_singleton]
  rw [List.length_append] at hcount
  omega

end Cache
end KernelJit
