/-
The ages of slots, and the handles that a table has known.

The age of a slot is its generation as a number.  Removing an object is the only thing
that changes the age of a slot.  It makes the slot older by one, or new again in the last
generation, so ages count the removals up to multiples of 2^32.  A handle is past when its
slot is older than the handle, and then it names nothing.  A known handle names an object
or is past.  What is known stays known while no slot gets younger, and the handle that an
insertion issues was not known before: so no handle is issued twice.
-/
import KernelJit.Proofs.Handle.Slots

namespace KernelJit
namespace HandleTable

variable {α : Type} {table after : HandleTable α} {handle : Handle} {object : α}

/-- The generation of a slot as a number; that of a slot not yet opened is zero. -/
def age (table : HandleTable α) (index : Nat) : Nat :=
  match table.slots[index]? with
  | some slot => slot.generation.toNat
  | none => 0

theorem age_of_slot {index : Nat} {slot : Slot α} (h : table.slots[index]? = some slot) :
    table.age index = slot.generation.toNat := by
  unfold age
  rw [h]

theorem age_lt (table : HandleTable α) (index : Nat) : table.age index < 0x100000000 := by
  unfold age
  cases table.slots[index]? with
  | none => exact Nat.zero_lt_succ _
  | some slot => exact slot.generation.toNat_lt

theorem age_generation (table : HandleTable α) (index : UInt32) :
    table.age index.toNat = (table.generation index).toNat := by
  unfold age generation
  cases table.slots[index.toNat]? with
  | none => rfl
  | some slot => rfl

theorem age_insert (h : table.Sound) (object : α) (i : Nat) :
    (table.insert object).2.age i = table.age i := by
  obtain ⟨index, _, _, hslots⟩ := insert_slots h object
  by_cases hi : i = index.toNat
  · have hself : (table.insert object).2.slots[index.toNat]? =
        some ⟨table.generation index, some object⟩ := by rw [hslots, if_pos rfl]
    rw [hi, age_generation table, age_of_slot hself]
  · unfold age
    rw [hslots, if_neg hi]

theorem age_replace (handle : Handle) (object : α) (i : Nat) :
    (table.replace handle object).age i = table.age i := by
  cases hget : table.get handle with
  | error failure => rw [replace_of_get_error hget]
  | ok old =>
    obtain ⟨index, generation, _, hslot, _, hslots⟩ := replace_slots hget object
    by_cases hi : i = index
    · have hself : (table.replace handle object).slots[index]? =
          some ⟨generation, some object⟩ := by rw [hslots, if_pos rfl]
      rw [hi, age_of_slot hslot, age_of_slot hself]
    · unfold age
      rw [hslots, if_neg hi]

theorem age_without_of_ne {index i : Nat} {generation : UInt32}
    (hslot : table.slots[index]? = some ⟨generation, some object⟩) (hne : i ≠ index) :
    (table.without index generation).age i = table.age i := by
  unfold age
  rw [slots_without hslot, if_neg hne]

theorem age_without_self {index : Nat} {generation : UInt32}
    (hslot : table.slots[index]? = some ⟨generation, some object⟩) :
    (table.without index generation).age index = (table.age index + 1) % 0x100000000 := by
  have hself : (table.without index generation).slots[index]? = some ⟨generation + 1, none⟩ := by
    rw [slots_without hslot, if_pos rfl]
  rw [age_of_slot hself, age_of_slot hslot, UInt32.toNat_add]
  rfl

theorem age_without {index : Nat} {generation : UInt32}
    (hslot : table.slots[index]? = some ⟨generation, some object⟩)
    (hlast : table.age index + 1 < 0x100000000) (i : Nat) :
    (table.without index generation).age i = table.age i + if i = index then 1 else 0 := by
  by_cases hi : i = index
  · rw [if_pos hi, hi, age_without_self hslot, Nat.mod_eq_of_lt hlast]
  · rw [age_without_of_ne hslot hi, if_neg hi, Nat.add_zero]

/-! ## What a handle finds, by age -/

/-- An object stands in a slot. -/
def Occupied (table : HandleTable α) (index : Nat) : Prop :=
  ∃ generation object, table.slots[index]? = some ⟨generation, some object⟩

/-- A handle finds an object if there is one in its slot and the slot has the handle's age. -/
theorem exists_get_iff {index : Nat} {generation : UInt32}
    (hparts : handle.parts? = some (index, generation)) :
    (∃ object, table.get handle = .ok object) ↔
      table.Occupied index ∧ table.age index = generation.toNat := by
  constructor
  · intro h
    obtain ⟨object, hget⟩ := h
    obtain ⟨i, g, hsame, hslot⟩ := get_eq_ok_iff.mp hget
    cases hparts.symm.trans hsame
    exact ⟨⟨generation, object, hslot⟩, age_of_slot hslot⟩
  · intro h
    obtain ⟨⟨g, object, hslot⟩, hage⟩ := h
    rw [age_of_slot hslot] at hage
    obtain rfl : g = generation := UInt32.toNat_inj.mp hage
    exact ⟨object, get_eq_ok_iff.mpr ⟨index, g, hparts, hslot⟩⟩

theorem get_eq_invalidHandle {parts : Nat × UInt32} (hparts : handle.parts? = some parts)
    (h : ∀ object, table.get handle ≠ .ok object) : table.get handle = .error .invalidHandle := by
  unfold get at h ⊢
  rw [hparts] at h ⊢
  dsimp only at h ⊢
  cases hocc : table.occupant? parts.1 parts.2 with
  | none => rfl
  | some object =>
    rw [hocc] at h
    exact absurd rfl (h object)

/-! ## Known handles -/

/-- The slot of a handle is older than the handle. -/
def Past (table : HandleTable α) (handle : Handle) : Prop :=
  ∃ index generation, handle.parts? = some (index, generation) ∧
    generation.toNat < table.age index

/-- A handle names an object or is past. -/
def Known (table : HandleTable α) (handle : Handle) : Prop :=
  (∃ object, table.get handle = .ok object) ∨ table.Past handle

theorem get_of_past (h : table.Past handle) : table.get handle = .error .invalidHandle := by
  obtain ⟨index, generation, hparts, hage⟩ := h
  refine get_eq_invalidHandle hparts fun object hget => ?_
  have hsame := ((exists_get_iff hparts).mp ⟨object, hget⟩).2
  omega

theorem past_of_age_le (hage : ∀ i, table.age i ≤ after.age i) (h : table.Past handle) :
    after.Past handle := by
  obtain ⟨index, generation, hparts, hlt⟩ := h
  exact ⟨index, generation, hparts, Nat.lt_of_lt_of_le hlt (hage index)⟩

theorem past_without {index : Nat} {generation : UInt32}
    (hparts : handle.parts? = some (index, generation))
    (hslot : table.slots[index]? = some ⟨generation, some object⟩)
    (hlast : table.age index + 1 < 0x100000000) : (table.without index generation).Past handle := by
  refine ⟨index, generation, hparts, ?_⟩
  rw [age_without hslot hlast, if_pos rfl, age_of_slot hslot]
  exact Nat.lt_succ_self _

theorem not_known_insert (h : table.Sound) (object : α) : ¬table.Known (table.insert object).1 := by
  obtain ⟨index, hparts, hempty, _⟩ := insert_slots h object
  rintro (⟨found, hget⟩ | ⟨i, generation, hsame, hlt⟩)
  · obtain ⟨i, generation, hsame, hslot⟩ := get_eq_ok_iff.mp hget
    rw [hparts] at hsame
    cases hsame
    exact hempty _ found hslot
  · rw [hparts] at hsame
    cases hsame
    rw [age_generation] at hlt
    exact absurd hlt (Nat.lt_irrefl _)

theorem known_insert (h : table.Sound) (hknown : table.Known handle) (object : α) :
    (table.insert object).2.Known handle := by
  rcases hknown with ⟨found, hget⟩ | hpast
  · have hne : handle ≠ (table.insert object).1 := fun hsame =>
      not_known_insert h object (Or.inl ⟨found, hsame ▸ hget⟩)
    exact Or.inl ⟨found, (get_insert_of_ne h object hne).trans hget⟩
  · exact Or.inr (past_of_age_le (fun i => Nat.le_of_eq (age_insert h object i).symm) hpast)

theorem known_replace (hknown : table.Known handle) (reached : Handle) (object : α) :
    (table.replace reached object).Known handle := by
  rcases hknown with ⟨found, hget⟩ | hpast
  · by_cases hsame : handle = reached
    · subst hsame
      exact Or.inl ⟨object, get_replace_self hget object⟩
    · exact Or.inl ⟨found, (get_replace_of_ne hsame object).trans hget⟩
  · exact Or.inr (past_of_age_le (fun i => Nat.le_of_eq (age_replace _ _ i).symm) hpast)

theorem known_without {removed : Handle} {index : Nat} {generation : UInt32}
    (hparts : removed.parts? = some (index, generation))
    (hslot : table.slots[index]? = some ⟨generation, some object⟩)
    (hlast : table.age index + 1 < 0x100000000) (hknown : table.Known handle) :
    (table.without index generation).Known handle := by
  rcases hknown with ⟨found, hget⟩ | hpast
  · by_cases hsame : handle = removed
    · exact Or.inr (past_without (hsame ▸ hparts) hslot hlast)
    · exact Or.inl ⟨found, (get_without_of_ne hparts hslot hsame).trans hget⟩
  · refine Or.inr (past_of_age_le (fun i => ?_) hpast)
    rw [age_without hslot hlast]
    exact Nat.le_add_right _ _

end HandleTable
end KernelJit
