/-
What the operations of a handle table do to a look-up.

A handle finds an object if its slot is in its generation and has an object, so a look-up
is a fact about one slot (`get_eq_ok_iff`), and handles with the same parts are the same
handle.  `Sound` says that the list of vacant indices tells the truth about the slots, that
the count of objects is right, and that indices have room in 32 bits.  In a sound table an
object is put into a slot without one (`insert_slots`), which is what keeps all other
handles as they are.
-/
import KernelJit.Handle.Table
import Mathlib.Data.List.Basic

namespace KernelJit

namespace Handle

/-- The parts of a handle make up its number. -/
theorem toNat_of_parts? {handle : Handle} {index : Nat} {generation : UInt32}
    (h : handle.parts? = some (index, generation)) :
    index < 0xffffffff ∧ handle.toNat = generation.toNat * 0x100000000 + (index + 1) := by
  have hlow : handle.toUInt32.toNat = handle.toNat % 0x100000000 := UInt64.toNat_toUInt32 handle
  have hlt := handle.toNat_lt
  unfold parts? at h
  by_cases hzero : handle.toUInt32 = 0
  · simp [hzero] at h
  · have hne : handle.toUInt32.toNat ≠ 0 := fun h0 => hzero (UInt32.toNat_inj.mp h0)
    have hpred : (handle.toUInt32 - 1).toNat = handle.toUInt32.toNat - 1 :=
      UInt32.toNat_sub_of_le _ _ (by rw [UInt32.le_iff_toNat_le]; simp; omega)
    have hhigh : (handle >>> 32).toUInt32.toNat = handle.toNat / 0x100000000 := by
      rw [UInt64.toNat_toUInt32, UInt64.toNat_shiftRight, Nat.shiftRight_eq_div_pow]
      simp
      omega
    simp only [hzero, if_false, Option.some.injEq, Prod.mk.injEq] at h
    obtain ⟨rfl, rfl⟩ := h
    rw [hhigh, hpred]
    omega

theorem eq_of_parts? {handle other : Handle} {parts : Nat × UInt32}
    (h : handle.parts? = some parts) (hother : other.parts? = some parts) : handle = other := by
  apply UInt64.toNat_inj.mp
  rw [(toNat_of_parts? h).2, (toNat_of_parts? hother).2]

theorem parts?_pack_ofNat {index : Nat} (h : index < 0xffffffff) (generation : UInt32) :
    (pack (UInt32.ofNat index) generation).parts? = some (index, generation) := by
  have hindex : (UInt32.ofNat index).toNat = index := by
    rw [UInt32.toNat_ofNat']
    omega
  rw [parts?_pack (by omega), hindex]

theorem parts?_null : null.parts? = none := rfl

end Handle

namespace HandleTable

variable {α : Type} {table : HandleTable α} {handle other : Handle} {object : α}

/-! ## Looking up -/

theorem occupant?_eq_some_iff {index : Nat} {generation : UInt32} :
    table.occupant? index generation = some object ↔
      table.slots[index]? = some ⟨generation, some object⟩ := by
  unfold occupant?
  cases hslot : table.slots[index]? with
  | none => simp
  | some slot =>
    cases slot with
    | mk own occupant =>
      by_cases hown : own = generation
      · simp [hown]
      · simp [hown]

theorem get_eq_ok_iff : table.get handle = .ok object ↔ ∃ index generation,
    handle.parts? = some (index, generation) ∧
      table.slots[index]? = some ⟨generation, some object⟩ := by
  unfold get
  cases hparts : handle.parts? with
  | none => simp
  | some parts =>
    cases parts with
    | mk index generation =>
      dsimp only
      constructor
      · intro h
        cases hocc : table.occupant? index generation with
        | none =>
          rw [hocc] at h
          cases h
        | some found =>
          rw [hocc] at h
          cases h
          exact ⟨index, generation, rfl, occupant?_eq_some_iff.mp hocc⟩
      · rintro ⟨_, _, hsame, hslot⟩
        cases hsame
        rw [occupant?_eq_some_iff.mpr hslot]

theorem contains_eq_true_iff :
    table.contains handle = true ↔ ∃ object, table.get handle = .ok object := by
  unfold contains
  cases table.get handle with
  | error failure => simp
  | ok object => simp

/-- Tables in which the slot of a handle looks the same to it answer it in the same way. -/
theorem get_congr {after : HandleTable α}
    (h : ∀ index generation, handle.parts? = some (index, generation) →
      ∀ object, after.slots[index]? = some ⟨generation, some object⟩ ↔
        table.slots[index]? = some ⟨generation, some object⟩) :
    after.get handle = table.get handle := by
  unfold get
  cases hparts : handle.parts? with
  | none => rfl
  | some parts =>
    have hocc : after.occupant? parts.1 parts.2 = table.occupant? parts.1 parts.2 := by
      apply Option.ext
      intro object
      rw [occupant?_eq_some_iff, occupant?_eq_some_iff]
      exact h parts.1 parts.2 hparts object
    simp only [hocc]

/-- After a slot has been written, handles of other slots find what they found. -/
theorem get_of_slots_set {after : HandleTable α} {index : Nat} {generation : UInt32}
    {slot : Slot α} (hslots : ∀ i, i ≠ index → after.slots[i]? = table.slots[i]?)
    (hafter : after.slots[index]? = some slot)
    (hparts : handle.parts? = some (index, generation))
    (hslot : slot.generation = generation ∨ slot.occupant = none)
    (hbefore : ∀ g object, g ≠ generation → table.slots[index]? ≠ some ⟨g, some object⟩)
    (hne : other ≠ handle) : after.get other = table.get other := by
  apply get_congr
  intro i g hother object
  by_cases hi : i = index
  · subst hi
    have hg : g ≠ generation := by
      intro hg
      subst hg
      exact hne (Handle.eq_of_parts? hother hparts)
    rw [hafter]
    constructor
    · intro h
      obtain rfl := Option.some.inj h
      rcases hslot with hsame | hnone
      · exact absurd hsame hg
      · cases hnone
    · intro h
      exact absurd h (hbefore g object hg)
  · rw [hslots i hi]

/-! ## Sound tables -/

/-- The number of slots that have an object. -/
def occupied (table : HandleTable α) : Nat :=
  table.slots.countP (·.occupant.isSome)

/-- The vacant indices are those of the slots without an object, each once, the count of
objects is right, and there is an index for one more slot. -/
structure Sound (table : HandleTable α) : Prop where
  nodup : table.vacant.Nodup
  mem_vacant : ∀ index : UInt32,
    index ∈ table.vacant ↔ ∃ generation, table.slots[index.toNat]? = some ⟨generation, none⟩
  live : table.live = table.occupied
  room : table.slots.length < 0xffffffff

theorem sound_empty : (empty : HandleTable α).Sound where
  nodup := List.nodup_nil
  mem_vacant index := by simp [empty]
  live := rfl
  room := by simp [empty]

/-- The index of a slot, and that of the next one to be opened, has room in 32 bits. -/
theorem Sound.toNat_index (h : table.Sound) {i : Nat} (hi : i ≤ table.slots.length) :
    (UInt32.ofNat i).toNat = i := by
  have hroom := h.room
  rw [UInt32.toNat_ofNat']
  omega

theorem mem_map_vacant (h : table.Sound) {i : Nat} :
    i ∈ table.vacant.map UInt32.toNat ↔ ∃ generation, table.slots[i]? = some ⟨generation, none⟩ := by
  rw [List.mem_map]
  constructor
  · intro hmem
    obtain ⟨index, hindex, rfl⟩ := hmem
    exact (h.mem_vacant index).mp hindex
  · intro hslot
    obtain ⟨generation, hempty⟩ := hslot
    have hlt := (List.getElem?_eq_some_iff.mp hempty).1
    have hindex := h.toNat_index (Nat.le_of_lt hlt)
    refine ⟨UInt32.ofNat i, (h.mem_vacant _).mpr ⟨generation, ?_⟩, hindex⟩
    rw [hindex]
    exact hempty

/-- Without a vacant slot every slot has an object. -/
theorem occupied_of_full (h : table.Sound) (hfull : table.vacant = []) :
    table.occupied = table.slots.length := by
  unfold occupied
  rw [List.countP_eq_length]
  intro slot hmem
  obtain ⟨i, hi, hslot⟩ := List.mem_iff_getElem.mp hmem
  cases slot with
  | mk generation occupant =>
    cases occupant with
    | some object => rfl
    | none =>
      have hvacant : i ∈ table.vacant.map UInt32.toNat :=
        (mem_map_vacant h).mpr ⟨generation, by rw [List.getElem?_eq_getElem hi, hslot]⟩
      rw [hfull] at hvacant
      cases hvacant

/-! ## Insertion -/

/-- What an insertion does: it writes the object into one slot, which had none or was not
there, in the generation that the slot is in, and issues the handle of the two. -/
theorem insert_slots (h : table.Sound) (object : α) : ∃ index : UInt32,
    (table.insert object).1.parts? = some (index.toNat, table.generation index) ∧
      (∀ generation object, table.slots[index.toNat]? ≠ some ⟨generation, some object⟩) ∧
      ∀ i, (table.insert object).2.slots[i]? =
        if i = index.toNat then some ⟨table.generation index, some object⟩
        else table.slots[i]? := by
  have hroom := h.room
  cases hvacant : table.vacant with
  | nil =>
    have hindex : (UInt32.ofNat table.slots.length).toNat = table.slots.length :=
      h.toNat_index (Nat.le_refl _)
    have hnone : table.slots[(UInt32.ofNat table.slots.length).toNat]? = none := by
      rw [hindex]
      exact List.getElem?_eq_none (Nat.le_refl _)
    have hgeneration : table.generation (UInt32.ofNat table.slots.length) = 0 := by
      unfold generation
      rw [hnone]
    refine ⟨UInt32.ofNat table.slots.length, ?_, ?_, ?_⟩
    · unfold insert
      rw [hvacant, hgeneration]
      apply Handle.parts?_pack
      omega
    · intro generation object
      rw [hnone]
      exact nofun
    · intro i
      unfold insert
      rw [hvacant, hgeneration, hindex]
      dsimp only
      rw [List.getElem?_append]
      split
      · rw [if_neg (by omega)]
      · next hge =>
        by_cases hi : i = table.slots.length
        · rw [hi, if_pos rfl, Nat.sub_self]
          rfl
        · rw [if_neg hi, List.getElem?_eq_none (by simp; omega),
            List.getElem?_eq_none (by omega)]
  | cons index rest =>
    obtain ⟨generation, hslot⟩ := (h.mem_vacant index).mp (by rw [hvacant]; simp)
    have hlt : index.toNat < table.slots.length := (List.getElem?_eq_some_iff.mp hslot).1
    refine ⟨index, ?_, ?_, ?_⟩
    · unfold insert
      rw [hvacant]
      apply Handle.parts?_pack
      omega
    · intro g object hsome
      rw [hslot] at hsome
      cases hsome
    · intro i
      unfold insert
      rw [hvacant]
      dsimp only
      rw [List.getElem?_set]
      by_cases hi : i = index.toNat
      · rw [if_pos hi.symm, if_pos hlt, if_pos hi]
      · rw [if_neg (Ne.symm hi), if_neg hi]

theorem get_insert_self (h : table.Sound) (object : α) :
    (table.insert object).2.get (table.insert object).1 = .ok object := by
  obtain ⟨index, hparts, _, hslots⟩ := insert_slots h object
  rw [get_eq_ok_iff]
  exact ⟨index.toNat, _, hparts, by rw [hslots, if_pos rfl]⟩

theorem get_insert_of_ne (h : table.Sound) (object : α) (hne : other ≠ (table.insert object).1) :
    (table.insert object).2.get other = table.get other := by
  obtain ⟨index, hparts, hbefore, hslots⟩ := insert_slots h object
  exact get_of_slots_set (fun i hi => by rw [hslots, if_neg hi])
    (by rw [hslots, if_pos rfl]) hparts (Or.inl rfl) (fun g o _ => hbefore g o) hne

theorem insert_ne_null (h : table.Sound) (object : α) :
    (table.insert object).1 ≠ Handle.null := by
  obtain ⟨index, hparts, _⟩ := insert_slots h object
  intro hnull
  rw [hnull, Handle.parts?_null] at hparts
  cases hparts

theorem occupied_insert (h : table.Sound) (object : α) :
    (table.insert object).2.occupied = table.occupied + 1 := by
  cases hvacant : table.vacant with
  | nil =>
    unfold insert
    rw [hvacant]
    simp [occupied]
  | cons index rest =>
    obtain ⟨generation, hslot⟩ := (h.mem_vacant index).mp (by rw [hvacant]; simp)
    obtain ⟨hlt, hget⟩ := List.getElem?_eq_some_iff.mp hslot
    unfold insert
    rw [hvacant]
    simp [occupied, List.countP_set hlt, hget]

/-- Insertion keeps a table sound as long as there are not too many objects. -/
theorem sound_insert (h : table.Sound) (object : α)
    (hroom : (table.insert object).2.occupied < 0xffffffff) : (table.insert object).2.Sound := by
  have hcount := occupied_insert h object
  have hlive := h.live
  cases hvacant : table.vacant with
  | nil =>
    have hfull := occupied_of_full h hvacant
    unfold insert at hcount hroom ⊢
    rw [hvacant] at hcount hroom ⊢
    refine ⟨List.nodup_nil, ?_, ?_, ?_⟩
    · intro index
      have hold := h.mem_vacant index
      rw [hvacant] at hold
      constructor
      · intro hmem
        cases hmem
      · rintro ⟨generation, hslot⟩
        rw [List.getElem?_append] at hslot
        split at hslot
        · exact hold.mpr ⟨generation, hslot⟩
        · have hmem := List.mem_of_getElem? hslot
          simp at hmem
    · dsimp only at hcount ⊢
      omega
    · simp only [List.length_append, List.length_singleton]
      omega
  | cons index rest =>
    obtain ⟨generation, hslot⟩ := (h.mem_vacant index).mp (by rw [hvacant]; simp)
    have hlt : index.toNat < table.slots.length := (List.getElem?_eq_some_iff.mp hslot).1
    have hnodup := h.nodup
    rw [hvacant] at hnodup
    obtain ⟨hindex, hrest⟩ := List.nodup_cons.mp hnodup
    unfold insert at hcount ⊢
    rw [hvacant] at hcount ⊢
    refine ⟨hrest, ?_, ?_, ?_⟩
    · intro j
      have hold := h.mem_vacant j
      rw [hvacant, List.mem_cons] at hold
      dsimp only
      rw [List.getElem?_set]
      by_cases hj : j = index
      · subst hj
        rw [if_pos rfl, if_pos hlt]
        constructor
        · intro hmem
          exact absurd hmem hindex
        · rintro ⟨_, hsome⟩
          cases hsome
      · rw [if_neg (fun hsame => hj (UInt32.toNat_inj.mp hsame.symm))]
        rw [← hold]
        simp [hj]
    · dsimp only at hcount ⊢
      omega
    · have hsound := h.room
      simp only [List.length_set]
      exact hsound

/-! ## Removal -/

theorem remove_of_get_error {failure : Failure} (h : table.get handle = .error failure) :
    table.remove handle = .error failure := by
  unfold get at h
  unfold remove
  cases hparts : handle.parts? with
  | none =>
    rw [hparts] at h
    cases h
    rfl
  | some parts =>
    rw [hparts] at h
    dsimp only at h ⊢
    cases hocc : table.occupant? parts.1 parts.2 with
    | none =>
      rw [hocc] at h
      cases h
      rfl
    | some object =>
      rw [hocc] at h
      cases h

/-- The table without the object of a handle; its slot is one generation older. -/
def without (table : HandleTable α) (index : Nat) (generation : UInt32) : HandleTable α :=
  { slots := table.slots.set index { generation := generation + 1, occupant := none }
    vacant := UInt32.ofNat index :: table.vacant
    live := table.live - 1 }

/-- What a removal does that finds an object. -/
theorem remove_of_get_ok (h : table.get handle = .ok object) : ∃ index generation,
    handle.parts? = some (index, generation) ∧
      table.slots[index]? = some ⟨generation, some object⟩ ∧
      table.remove handle = .ok (object, table.without index generation) := by
  obtain ⟨index, generation, hparts, hslot⟩ := get_eq_ok_iff.mp h
  refine ⟨index, generation, hparts, hslot, ?_⟩
  unfold remove
  rw [hparts]
  dsimp only
  rw [occupant?_eq_some_iff.mpr hslot]
  rfl

section Without

variable {index : Nat} {generation : UInt32}

theorem slots_without (hslot : table.slots[index]? = some ⟨generation, some object⟩) (i : Nat) :
    (table.without index generation).slots[i]? =
      if i = index then some ⟨generation + 1, none⟩ else table.slots[i]? := by
  have hlt : index < table.slots.length := (List.getElem?_eq_some_iff.mp hslot).1
  unfold without
  rw [List.getElem?_set]
  by_cases hi : i = index
  · rw [if_pos hi.symm, if_pos hlt, if_pos hi]
  · rw [if_neg (Ne.symm hi), if_neg hi]

theorem occupied_without (hslot : table.slots[index]? = some ⟨generation, some object⟩) :
    (table.without index generation).occupied + 1 = table.occupied := by
  obtain ⟨hlt, hget⟩ := List.getElem?_eq_some_iff.mp hslot
  have hpos : 0 < table.slots.countP (·.occupant.isSome) :=
    List.countP_pos_iff.mpr ⟨_, List.getElem_mem hlt, by rw [hget]; rfl⟩
  unfold occupied without
  simp [List.countP_set hlt, hget]
  omega

theorem sound_without (h : table.Sound)
    (hslot : table.slots[index]? = some ⟨generation, some object⟩) :
    (table.without index generation).Sound := by
  have hcount := occupied_without hslot
  have hlive := h.live
  have hroom := h.room
  have hlt : index < table.slots.length := (List.getElem?_eq_some_iff.mp hslot).1
  have hindex : (UInt32.ofNat index).toNat = index := h.toNat_index (Nat.le_of_lt hlt)
  refine ⟨?_, ?_, ?_, ?_⟩
  · refine List.nodup_cons.mpr ⟨?_, h.nodup⟩
    rw [h.mem_vacant, hindex, hslot]
    rintro ⟨_, hsome⟩
    cases hsome
  · intro j
    have hold := h.mem_vacant j
    rw [slots_without hslot]
    show j ∈ UInt32.ofNat index :: table.vacant ↔ _
    rw [List.mem_cons]
    by_cases hj : j.toNat = index
    · have hsame : j = UInt32.ofNat index := UInt32.toNat_inj.mp (hj.trans hindex.symm)
      rw [if_pos hj]
      exact ⟨fun _ => ⟨generation + 1, rfl⟩, fun _ => Or.inl hsame⟩
    · have hne : j ≠ UInt32.ofNat index := fun hsame => hj (by rw [hsame, hindex])
      rw [if_neg hj, ← hold]
      simp [hne]
  · show table.live - 1 = _
    omega
  · show (table.slots.set index _).length < _
    rw [List.length_set]
    exact hroom

theorem get_without_self (hparts : handle.parts? = some (index, generation))
    (hslot : table.slots[index]? = some ⟨generation, some object⟩) :
    (table.without index generation).get handle = .error .invalidHandle := by
  cases hget : (table.without index generation).get handle with
  | ok found =>
    obtain ⟨i, g, hsame, hfound⟩ := get_eq_ok_iff.mp hget
    rw [hparts] at hsame
    cases hsame
    rw [slots_without hslot, if_pos rfl] at hfound
    simp at hfound
  | error failure =>
    unfold get at hget
    rw [hparts] at hget
    dsimp only at hget
    split at hget
    · cases hget
    · cases hget
      rfl

theorem get_without_of_ne (hparts : handle.parts? = some (index, generation))
    (hslot : table.slots[index]? = some ⟨generation, some object⟩) (hne : other ≠ handle) :
    (table.without index generation).get other = table.get other := by
  refine get_of_slots_set (fun i hi => by rw [slots_without hslot, if_neg hi])
    (by rw [slots_without hslot, if_pos rfl]) hparts (Or.inr rfl) ?_ hne
  intro g found hg hsome
  rw [hslot] at hsome
  cases hsome
  exact hg rfl

end Without

/-! ## Replacement -/

theorem replace_of_get_error {failure : Failure} (h : table.get handle = .error failure)
    (object : α) : table.replace handle object = table := by
  unfold get at h
  unfold replace
  cases hparts : handle.parts? with
  | none => rfl
  | some parts =>
    rw [hparts] at h
    dsimp only at h ⊢
    cases hocc : table.occupant? parts.1 parts.2 with
    | none => rfl
    | some found =>
      rw [hocc] at h
      cases h

/-- What a replacement does that finds an object. -/
theorem replace_slots {old : α} (h : table.get handle = .ok old) (object : α) :
    ∃ index generation, handle.parts? = some (index, generation) ∧
      table.slots[index]? = some ⟨generation, some old⟩ ∧
      table.replace handle object =
        { table with slots := table.slots.set index ⟨generation, some object⟩ } ∧
      ∀ i, (table.replace handle object).slots[i]? =
        if i = index then some ⟨generation, some object⟩ else table.slots[i]? := by
  obtain ⟨index, generation, hparts, hslot⟩ := get_eq_ok_iff.mp h
  have hlt : index < table.slots.length := (List.getElem?_eq_some_iff.mp hslot).1
  have hreplace : table.replace handle object =
      { table with slots := table.slots.set index ⟨generation, some object⟩ } := by
    unfold replace
    rw [hparts]
    dsimp only
    rw [occupant?_eq_some_iff.mpr hslot]
  refine ⟨index, generation, hparts, hslot, hreplace, ?_⟩
  intro i
  rw [hreplace]
  dsimp only
  rw [List.getElem?_set]
  by_cases hi : i = index
  · rw [if_pos hi.symm, if_pos hlt, if_pos hi]
  · rw [if_neg (Ne.symm hi), if_neg hi]

theorem get_replace_self {old : α} (h : table.get handle = .ok old) (object : α) :
    (table.replace handle object).get handle = .ok object := by
  obtain ⟨index, generation, hparts, _, _, hslots⟩ := replace_slots h object
  rw [get_eq_ok_iff]
  exact ⟨index, generation, hparts, by rw [hslots, if_pos rfl]⟩

theorem get_replace_of_ne (hne : other ≠ handle) (object : α) :
    (table.replace handle object).get other = table.get other := by
  cases hget : table.get handle with
  | error failure => rw [replace_of_get_error hget]
  | ok old =>
    obtain ⟨index, generation, hparts, hslot, _, hslots⟩ := replace_slots hget object
    refine get_of_slots_set (fun i hi => by rw [hslots, if_neg hi])
      (by rw [hslots, if_pos rfl]) hparts (Or.inl rfl) ?_ hne
    intro g found hg hsome
    rw [hslot] at hsome
    cases hsome
    exact hg rfl

theorem occupied_replace (handle : Handle) (object : α) :
    (table.replace handle object).occupied = table.occupied := by
  cases hget : table.get handle with
  | error failure => rw [replace_of_get_error hget]
  | ok old =>
    obtain ⟨index, generation, _, hslot, hreplace, _⟩ := replace_slots hget object
    obtain ⟨hlt, hfound⟩ := List.getElem?_eq_some_iff.mp hslot
    have hpos : 0 < table.slots.countP (·.occupant.isSome) :=
      List.countP_pos_iff.mpr ⟨_, List.getElem_mem hlt, by rw [hfound]; rfl⟩
    rw [hreplace]
    simp [occupied, List.countP_set hlt, hfound]
    omega

theorem sound_replace (h : table.Sound) (handle : Handle) (object : α) :
    (table.replace handle object).Sound := by
  have hcount : (table.replace handle object).occupied = table.occupied :=
    occupied_replace handle object
  have hlive := h.live
  have hroom := h.room
  cases hget : table.get handle with
  | error failure => rwa [replace_of_get_error hget]
  | ok old =>
    obtain ⟨index, generation, _, hslot, hreplace, hslots⟩ := replace_slots hget object
    have hvacant : (table.replace handle object).vacant = table.vacant := by rw [hreplace]
    refine ⟨by rw [hvacant]; exact h.nodup, ?_, ?_, ?_⟩
    · intro j
      rw [hvacant, h.mem_vacant, hslots]
      by_cases hj : j.toNat = index
      · rw [if_pos hj, hj, hslot]
        simp
      · rw [if_neg hj]
    · rw [hcount, hreplace]
      exact hlive
    · rw [hreplace]
      simpa using hroom

end HandleTable
end KernelJit
