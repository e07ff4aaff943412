/-
How a table of handles can change.

Whatever is done to a table that is shared by many users, it is one of four things: nothing, a
new object, another object in place of the one that is reached, or the end of a handle.  So a
sound table stays sound, what is known stays known, a slot gets older by one when a handle of
it is ended, and a known handle that is not reached finds what it found.
-/
import KernelJit.Proofs.Handle.Age

namespace KernelJit
namespace HandleTable

/-- How a table can change, given the handle whose object is reached and the one that is
ended. -/
inductive Change {α : Type} (table : HandleTable α) (target : Option Handle) :
    Option Handle → HandleTable α → Prop where
  | same : Change table target none table
  | insert (object : α) : Change table target none (table.insert object).2
  | replace {handle : Handle} (htarget : target = some handle) (object : α) :
      Change table target none (table.replace handle object)
  | without {handle : Handle} {object : α} {index : Nat} {generation : UInt32}
      (htarget : target = some handle) (hparts : handle.parts? = some (index, generation))
      (hslot : table.slots[index]? = some ⟨generation, some object⟩) :
      Change table target (some handle) (table.without index generation)

/-- The index of the slot of a handle. -/
def slotOf (handle : Option Handle) : Option Nat :=
  (handle.bind Handle.parts?).map (·.1)

theorem slotOf_of_parts {handle : Handle} {index : Nat} {generation : UInt32}
    (hparts : handle.parts? = some (index, generation)) : slotOf (some handle) = some index := by
  unfold slotOf
  rw [Option.bind_some, hparts]
  rfl

/-- An insertion issues a handle exactly if it writes the slot of the handle and the slot has
the handle's age. -/
theorem insert_eq_iff {α : Type} {table : HandleTable α} (h : table.Sound) (object : α)
    {handle : Handle} {index : Nat} {generation : UInt32}
    (hparts : handle.parts? = some (index, generation)) :
    (table.insert object).1 = handle ↔
      slotOf (some (table.insert object).1) = some index ∧ table.age index = generation.toNat := by
  obtain ⟨i, hissued, _⟩ := insert_slots h object
  rw [slotOf_of_parts hissued, Option.some.injEq]
  constructor
  · intro hsame
    rw [hsame, hparts] at hissued
    cases hissued
    exact ⟨rfl, age_generation table i⟩
  · intro hslot
    obtain ⟨rfl, hage⟩ := hslot
    rw [age_generation, UInt32.toNat_inj] at hage
    exact Handle.eq_of_parts? hissued (hage ▸ hparts)

namespace Change

variable {α : Type} {table after : HandleTable α} {target ended : Option Handle}

theorem sound (h : Change table target ended after) (hsound : table.Sound)
    (hroom : after.live < 0xffffffff) : after.Sound := by
  cases h with
  | same => exact hsound
  | insert object =>
    have hlive : (table.insert object).2.live = table.live + 1 := by
      unfold HandleTable.insert
      cases table.vacant <;> rfl
    have hcount := occupied_insert hsound object
    have hold := hsound.live
    exact sound_insert hsound object (by omega)
  | replace _ object => exact sound_replace hsound _ object
  | without _ _ hslot => exact sound_without hsound hslot

/-- Ages count the handles of a slot that are ended, up to multiples of 2^32. -/
theorem age_mod (h : Change table target ended after) (hsound : table.Sound) (index : Nat) :
    after.age index =
      (table.age index + if slotOf ended = some index then 1 else 0) % 0x100000000 := by
  have hkept : ∀ {after : HandleTable α}, after.age index = table.age index →
      after.age index = (table.age index + 0) % 0x100000000 := fun hsame =>
    hsame.trans (Nat.mod_eq_of_lt (age_lt table index)).symm
  cases h with
  | same => exact hkept rfl
  | insert object => exact hkept (age_insert hsound object index)
  | replace _ object => exact hkept (age_replace _ object index)
  | @without handle object own generation _ hparts hslot =>
    rw [slotOf_of_parts hparts]
    by_cases hsame : own = index
    · subst hsame
      rw [if_pos rfl, age_without_self hslot]
    · rw [if_neg (fun h => hsame (Option.some.inj h))]
      exact hkept (age_without_of_ne hslot (Ne.symm hsame))

theorem age (h : Change table target ended after) (hsound : table.Sound) {index : Nat}
    (hworn : slotOf ended = some index → table.age index + 1 < 0x100000000) :
    after.age index = table.age index + if slotOf ended = some index then 1 else 0 := by
  rw [h.age_mod hsound, Nat.mod_eq_of_lt]
  by_cases hended : slotOf ended = some index
  · rw [if_pos hended]
    exact hworn hended
  · rw [if_neg hended]
    exact age_lt table index

theorem known (h : Change table target ended after) (hsound : table.Sound)
    (hworn : ∀ index, slotOf ended = some index → table.age index + 1 < 0x100000000)
    {handle : Handle} (hknown : table.Known handle) : after.Known handle := by
  cases h with
  | same => exact hknown
  | insert object => exact known_insert hsound hknown object
  | replace _ object => exact known_replace hknown _ object
  | without _ hparts hslot =>
    exact known_without hparts hslot (hworn _ (slotOf_of_parts hparts)) hknown

/-- A known handle that is not reached finds what it found. -/
theorem get_of_ne (h : Change table target ended after) (hsound : table.Sound) {handle : Handle}
    (hknown : table.Known handle) (hne : target ≠ some handle) :
    after.get handle = table.get handle := by
  cases h with
  | same => rfl
  | insert object =>
    apply get_insert_of_ne hsound
    intro hsame
    exact not_known_insert hsound object (hsame ▸ hknown)
  | replace htarget object =>
    apply get_replace_of_ne
    intro hsame
    exact hne (hsame ▸ htarget)
  | without htarget hparts hslot =>
    apply get_without_of_ne hparts hslot
    intro hsame
    exact hne (hsame ▸ htarget)

/-- What found an object still does, unless it is ended. -/
theorem live_iff (h : Change table target ended after) (hsound : table.Sound) {handle : Handle}
    {object : α} (hget : table.get handle = .ok object) :
    (∃ found, after.get handle = .ok found) ↔ ended ≠ some handle := by
  cases h with
  | same => exact iff_of_true ⟨object, hget⟩ (Option.some_ne_none handle).symm
  | insert made =>
    have hne : handle ≠ (table.insert made).1 := by
      intro hsame
      exact not_known_insert hsound made (hsame ▸ Or.inl ⟨object, hget⟩)
    rw [get_insert_of_ne hsound made hne]
    exact iff_of_true ⟨object, hget⟩ (Option.some_ne_none handle).symm
  | @replace reached _ other =>
    refine iff_of_true ?_ (Option.some_ne_none handle).symm
    by_cases hsame : handle = reached
    · subst hsame
      exact ⟨other, get_replace_self hget other⟩
    · exact ⟨object, (get_replace_of_ne hsame other).trans hget⟩
  | @without removed _ index generation _ hparts hslot =>
    by_cases hsame : handle = removed
    · subst hsame
      rw [get_without_self hparts hslot]
      refine iff_of_false ?_ (fun h => h rfl)
      intro hfound
      obtain ⟨found, hfound⟩ := hfound
      cases hfound
    · rw [get_without_of_ne hparts hslot hsame]
      exact iff_of_true ⟨object, hget⟩ fun h => hsame (Option.some.inj h).symm

end Change
end HandleTable

end KernelJit
