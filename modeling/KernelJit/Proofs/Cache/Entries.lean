/-
The entries of a cache under its operations.

Entries are looked up by their keys, touched, put out and stored.  What holds of each
entry, whatever the count of its uses, is kept by all of these once it holds of the
entry that is stored (`forall_getOrCompile`); nothing has to be known of which entries
are put out.

The loop that makes room is opened only here.  It runs on a bound and returns its events.
`Evicts size cache gone after` is the same loop without the bound: the entries of `gone` are put
out one after the other, each of them among the least used at its turn, as long as a program of
this size does not fit, and `after` is what is left.  The bound is the number of entries and
each turn takes one of them, so it never ends the loop (`evicts_makeRoom`).  Every later
statement about the loop is an induction on `Evicts`, or it comes from `evictUpTo_of_preserved`,
which asks what one eviction preserves.
-/
import KernelJit.Cache.Basic
import Mathlib.Data.List.MinMax

namespace KernelJit
namespace Cache

/-! ## Finding and touching -/

theorem mem_of_find? {cache : Cache} {key : Fingerprint} {entry : Entry}
    (h : cache.find? key = some entry) : entry ∈ cache.entries :=
  List.mem_of_find?_eq_some h

theorem key_of_find? {cache : Cache} {key : Fingerprint} {entry : Entry}
    (h : cache.find? key = some entry) : entry.key = key :=
  eq_of_beq (List.find?_some (p := fun e : Entry => e.key == key) h)

theorem find?_eq_none_iff {cache : Cache} {key : Fingerprint} :
    cache.find? key = none ↔ ∀ entry ∈ cache.entries, entry.key ≠ key := by
  simp [find?]

theorem forall_touch {P : Entry → Prop} (huse : ∀ entry, P entry → P entry.use) {cache : Cache}
    (h : ∀ entry ∈ cache.entries, P entry) (key : Fingerprint) :
    ∀ entry ∈ (cache.touch key).entries, P entry := by
  intro entry hmem
  obtain ⟨before, hbefore, rfl⟩ := List.mem_map.mp hmem
  by_cases hkey : before.key = key
  · rw [if_pos hkey]
    exact huse before (h before hbefore)
  · rw [if_neg hkey]
    exact h before hbefore

/-! ## Putting out -/

theorem mem_of_victim? {cache : Cache} {entry : Entry} (h : cache.victim? = some entry) :
    entry ∈ cache.entries :=
  (List.mem_filter.mp (List.mem_of_getElem? h)).1

/-- Among any entries there is one that has been used least, so as long as there are
entries one of them can be put out. -/
theorem exists_victim? {cache : Cache} (h : cache.entries ≠ []) :
    ∃ entry, cache.victim? = some entry := by
  obtain ⟨least, hleast⟩ : ∃ least, cache.entries.argmin (·.uses.toNat) = some least :=
    Option.ne_none_iff_exists'.mp (fun hnone => h (List.argmin_eq_none.mp hnone))
  have hmem : least ∈ cache.leastUsed := by
    refine List.mem_filter.mpr ⟨List.argmin_mem hleast, List.all_eq_true.mpr ?_⟩
    intro other hother
    have hle : least.uses.toNat ≤ other.uses.toNat :=
      List.le_of_mem_argmin (f := fun e : Entry => e.uses.toNat) hother hleast
    exact decide_eq_true (UInt64.le_iff_toNat_le.mpr hle)
  have hpos : 0 < cache.leastUsed.length := List.length_pos_of_mem hmem
  exact ⟨_, List.getElem?_eq_getElem (Nat.mod_lt _ hpos)⟩

theorem mem_evict {cache : Cache} {gone entry : Entry} :
    entry ∈ (cache.evict gone).entries ↔ entry ∈ cache.entries ∧ entry.key ≠ gone.key := by
  show entry ∈ cache.entries.filter _ ↔ _
  rw [List.mem_filter, decide_eq_true_eq]

theorem length_evict_lt {cache : Cache} {entry : Entry} (h : entry ∈ cache.entries) :
    (cache.evict entry).entries.length < cache.entries.length :=
  List.length_filter_lt_length_iff_exists.mpr ⟨entry, h, by simp⟩

theorem evictUpTo_of_fits {cache : Cache} {size : Size} (h : cache.fits size = true) (n : Nat) :
    evictUpTo size n cache = (cache, []) := by
  cases n with
  | zero => rfl
  | succ n => rw [evictUpTo, if_pos h]

theorem evictUpTo_of_victim {cache : Cache} {size : Size} {entry : Entry}
    (hfull : cache.fits size = false) (hvictim : cache.victim? = some entry) (n : Nat) :
    evictUpTo size (n + 1) cache =
      ((evictUpTo size n (cache.evict entry)).1,
        .evicted entry.key :: (evictUpTo size n (cache.evict entry)).2) := by
  rw [evictUpTo, hfull, if_neg Bool.false_ne_true, hvictim]

theorem evictUpTo_of_no_victim {cache : Cache} {size : Size} (hvictim : cache.victim? = none)
    (n : Nat) : evictUpTo size n cache = (cache, []) := by
  cases n with
  | zero => rfl
  | succ n => rw [evictUpTo, hvictim, ite_self]

/-- What each eviction preserves holds after any number of them. -/
theorem evictUpTo_of_preserved {P : Cache → Prop}
    (hevict : ∀ cache entry, cache.victim? = some entry → P cache → P (cache.evict entry))
    {cache : Cache} (h : P cache) (size : Size) (n : Nat) : P (evictUpTo size n cache).1 := by
  induction n generalizing cache with
  | zero => exact h
  | succ n ih =>
    cases hvictim : cache.victim? with
    | none =>
      rw [evictUpTo_of_no_victim hvictim]
      exact h
    | some entry =>
      cases hfits : cache.fits size with
      | true =>
        rw [evictUpTo_of_fits hfits]
        exact h
      | false =>
        rw [evictUpTo_of_victim hfits hvictim]
        exact ih (hevict cache entry hvictim h)

/-- Making room for a program of this size puts out these entries, in this order. -/
inductive Evicts (size : Size) : Cache → List Entry → Cache → Prop where
  | stop {cache : Cache} (h : cache.fits size = true ∨ cache.entries = []) :
      Evicts size cache [] cache
  | next {cache after : Cache} {entry : Entry} {gone : List Entry}
      (hfull : cache.fits size = false) (hvictim : cache.victim? = some entry)
      (hrest : Evicts size (cache.evict entry) gone after) :
      Evicts size cache (entry :: gone) after

theorem evicts_evictUpTo (size : Size) (n : Nat) {cache : Cache}
    (hn : cache.entries.length ≤ n) :
    ∃ gone, Evicts size cache gone (evictUpTo size n cache).1 ∧
      (evictUpTo size n cache).2 = gone.map fun entry => .evicted entry.key := by
  induction n generalizing cache with
  | zero =>
    have hempty : cache.entries = [] := List.length_eq_zero_iff.mp (Nat.le_zero.mp hn)
    exact ⟨[], .stop (Or.inr hempty), rfl⟩
  | succ n ih =>
    cases hfits : cache.fits size with
    | true =>
      rw [evictUpTo_of_fits hfits]
      exact ⟨[], .stop (Or.inl hfits), rfl⟩
    | false =>
      by_cases hempty : cache.entries = []
      · have hvictim : cache.victim? = none := by
          simp only [victim?, leastUsed, hempty, List.filter_nil, List.getElem?_nil]
        rw [evictUpTo_of_no_victim hvictim]
        exact ⟨[], .stop (Or.inr hempty), rfl⟩
      · obtain ⟨entry, hvictim⟩ := exists_victim? hempty
        have hlt := length_evict_lt (mem_of_victim? hvictim)
        obtain ⟨gone, hrest, htrace⟩ := @ih (cache.evict entry) (by omega)
        rw [evictUpTo_of_victim hfits hvictim, htrace]
        exact ⟨entry :: gone, .next hfits hvictim hrest, rfl⟩

/-- Making room runs the loop to its end. -/
theorem evicts_makeRoom (cache : Cache) (size : Size) :
    ∃ gone, Evicts size cache gone (cache.makeRoom size).1 ∧
      (cache.makeRoom size).2 = gone.map fun entry => .evicted entry.key :=
  evicts_evictUpTo size _ (Nat.le_refl _)

theorem Evicts.fits_or_empty {size : Size} {cache after : Cache} {gone : List Entry}
    (h : Evicts size cache gone after) : after.fits size = true ∨ after.entries = [] := by
  induction h with
  | stop h => exact h
  | next _ _ _ ih => exact ih

theorem makeRoom_fits_or_empty (cache : Cache) (size : Size) :
    (cache.makeRoom size).1.fits size = true ∨ (cache.makeRoom size).1.entries = [] := by
  obtain ⟨gone, hevicts, _⟩ := evicts_makeRoom cache size
  exact hevicts.fits_or_empty

theorem forall_evictUpTo {P : Entry → Prop} {cache : Cache} (h : ∀ entry ∈ cache.entries, P entry)
    (size : Size) (n : Nat) : ∀ entry ∈ (evictUpTo size n cache).1.entries, P entry := by
  refine evictUpTo_of_preserved (P := fun cache => ∀ entry ∈ cache.entries, P entry) ?_ h size n
  intro cache gone _ hcache entry hmem
  exact hcache entry (mem_evict.mp hmem).1

/-- All that happens while room is made is that entries are put out. -/
theorem evicted_of_mem_makeRoom {cache : Cache} {size : Size} {event : Event}
    (h : event ∈ (cache.makeRoom size).2) : ∃ key, event = .evicted key := by
  obtain ⟨gone, _, htrace⟩ := evicts_makeRoom cache size
  rw [htrace] at h
  obtain ⟨entry, _, rfl⟩ := List.mem_map.mp h
  exact ⟨entry.key, rfl⟩

/-! ## Storing -/

theorem mem_put {cache : Cache} {key : Fingerprint} {program : Shared Program} {size : Size}
    {entry : Entry} :
    entry ∈ (cache.put key program size).entries ↔
      (entry ∈ cache.entries ∧ entry.key ≠ key) ∨ entry = { key, program, uses := 1, size } := by
  show entry ∈ cache.entries.filter _ ++ _ ↔ _
  rw [List.mem_append, List.mem_filter, decide_eq_true_eq, List.mem_singleton]

theorem insert_eq (cache : Cache) (key : Fingerprint) (program : Program) :
    cache.insert key program =
      { result := { id := (cache.makeRoom program.size).1.stored, value := program.tag key }
        state := (cache.makeRoom program.size).1.put key
          { id := (cache.makeRoom program.size).1.stored, value := program.tag key } program.size
        trace := (cache.makeRoom program.size).2 } := rfl

theorem insert_state (cache : Cache) (key : Fingerprint) (program : Program) :
    (cache.insert key program).state =
      (cache.makeRoom program.size).1.put key
        { id := (cache.makeRoom program.size).1.stored, value := program.tag key }
        program.size := rfl

/-- The entry that an insertion adds, with the program as the object of a number. -/
def Entry.fresh (key : Fingerprint) (program : Program) (id : Nat) : Entry :=
  { key, program := { id, value := program.tag key }, uses := 1, size := program.size }

theorem stored_makeRoom (cache : Cache) (size : Size) :
    (cache.makeRoom size).1.stored = cache.stored :=
  evictUpTo_of_preserved (P := fun after => after.stored = cache.stored)
    (fun _ _ _ hafter => hafter) rfl size _

theorem insert_result (cache : Cache) (key : Fingerprint) (program : Program) :
    (cache.insert key program).result = { id := cache.stored, value := program.tag key } := by
  rw [insert_eq, stored_makeRoom]

/-- An insertion adds one entry, under the number that is next. -/
theorem mem_of_mem_insert {cache : Cache} {key : Fingerprint} {program : Program} {entry : Entry}
    (h : entry ∈ (cache.insert key program).state.entries) :
    entry ∈ cache.entries ∨ entry = Entry.fresh key program cache.stored := by
  rw [insert_state, mem_put, stored_makeRoom] at h
  rcases h with hold | hnew
  · exact Or.inl (forall_evictUpTo (P := (· ∈ cache.entries)) (fun _ hmem => hmem)
      program.size _ entry hold.1)
  · exact Or.inr hnew

theorem forall_insert {P : Entry → Prop} {cache : Cache} {key : Fingerprint} {program : Program}
    (h : ∀ entry ∈ cache.entries, P entry) (hfresh : ∀ id, P (Entry.fresh key program id)) :
    ∀ entry ∈ (cache.insert key program).state.entries, P entry := by
  intro entry hmem
  rcases mem_of_mem_insert hmem with hold | hnew
  · exact h entry hold
  · rw [hnew]
    exact hfresh _

end Cache
end KernelJit
