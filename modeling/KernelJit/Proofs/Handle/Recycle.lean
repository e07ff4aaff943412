/-
Passing many objects through a table, and counting them instead.

After one object has passed, its slot is the one that is used next (`Next`).  Each further
object then makes the slot one generation older and changes nothing else (`pass_of_next`),
so all but the first and the last can be counted on the generation (`recycle_eq_passes`).
-/
import KernelJit.Handle.Recycle
import KernelJit.Proofs.Handle.Slots

namespace KernelJit
namespace HandleTable

variable {α : Type} {table : HandleTable α} {index generation : UInt32}

/-- The slot that is used next, and its generation. -/
structure Next (table : HandleTable α) (index generation : UInt32) : Prop where
  vacant : table.vacant.head? = some index
  slot : table.slots[index.toNat]? = some ⟨generation, none⟩
  room : index.toNat + 1 < 0x100000000

theorem Next.generation_eq (h : Next table index generation) :
    table.generation index = generation := by
  unfold HandleTable.generation
  rw [h.slot]

theorem Next.worn_eq (h : Next table index generation) (n : Nat) :
    table.worn n = { table with
      slots := table.slots.set index.toNat ⟨generation + UInt32.ofNat n, none⟩ } := by
  obtain ⟨rest, hvacant⟩ := List.head?_eq_some_iff.mp h.vacant
  unfold worn
  rw [hvacant, ← h.generation_eq]

theorem Next.worn (h : Next table index generation) (n : Nat) :
    Next (table.worn n) index (generation + UInt32.ofNat n) := by
  have hlt := (List.getElem?_eq_some_iff.mp h.slot).1
  rw [h.worn_eq]
  exact ⟨h.vacant, List.getElem?_set_self hlt, h.room⟩

theorem Next.worn_zero (h : Next table index generation) : table.worn 0 = table := by
  have hsame : table.slots.set index.toNat ⟨generation + UInt32.ofNat 0, none⟩ = table.slots := by
    obtain ⟨hlt, hslot⟩ := List.getElem?_eq_some_iff.mp h.slot
    rw [show generation + UInt32.ofNat 0 = generation from UInt32.add_zero _, ← hslot,
      List.set_getElem_self]
  rw [h.worn_eq, hsame]

theorem Next.worn_worn (h : Next table index generation) (m n : Nat) :
    (table.worn m).worn n = table.worn (m + n) := by
  rw [(h.worn m).worn_eq, h.worn_eq, h.worn_eq]
  dsimp only
  rw [List.set_set, UInt32.add_assoc, UInt32.ofNat_add]

/-- Once an object has passed, the next one gets its slot. -/
theorem exists_next_pass (h : table.Sound) (object : α) :
    ∃ index generation, Next (table.pass object).2 index generation := by
  obtain ⟨index, hparts, _, hslots⟩ := insert_slots h object
  have hself := hslots index.toNat
  rw [if_pos rfl] at hself
  obtain ⟨own, generation, hsame, _, hremove⟩ :=
    remove_of_get_ok (get_eq_ok_iff.mpr ⟨_, _, hparts, hself⟩)
  cases hparts.symm.trans hsame
  have hpass : (table.pass object).2 =
      (table.insert object).2.without index.toNat (table.generation index) := by
    unfold pass
    dsimp only
    rw [hremove]
  rw [hpass]
  refine ⟨index, table.generation index + 1, ?_, ?_, ?_⟩
  · exact congrArg some UInt32.ofNat_toNat
  · rw [slots_without hself, if_pos rfl]
  · have hroom := (Handle.toNat_of_parts? hparts).1
    omega

theorem Next.insert_eq (h : Next table index generation) (object : α) :
    table.insert object = (Handle.pack index generation,
      { slots := table.slots.set index.toNat ⟨generation, some object⟩
        vacant := table.vacant.tail
        live := table.live + 1 }) := by
  obtain ⟨rest, hvacant⟩ := List.head?_eq_some_iff.mp h.vacant
  unfold insert
  rw [hvacant]
  dsimp only
  rw [h.generation_eq]
  rfl

theorem Next.get_insert (h : Next table index generation) (object : α) :
    (table.insert object).2.get (Handle.pack index generation) = .ok object := by
  have hlt := (List.getElem?_eq_some_iff.mp h.slot).1
  rw [h.insert_eq]
  exact get_eq_ok_iff.mpr ⟨_, _, Handle.parts?_pack h.room _, List.getElem?_set_self hlt⟩

/-- An object that is put in and taken out leaves the slot one generation older. -/
theorem Next.insert_without (h : Next table index generation) (object : α) :
    (table.insert object).2.without index.toNat generation = table.worn 1 := by
  have hvacant : UInt32.ofNat index.toNat :: table.vacant.tail = table.vacant := by
    rw [UInt32.ofNat_toNat]
    exact List.cons_head?_tail h.vacant
  rw [h.insert_eq, h.worn_eq]
  unfold without
  dsimp only
  rw [List.set_set, hvacant]
  rfl

theorem pass_of_next (h : Next table index generation) (object : α) :
    table.pass object = (Handle.pack index generation, table.worn 1) := by
  obtain ⟨own, before, hparts, _, hremove⟩ := remove_of_get_ok (h.get_insert object)
  cases (Handle.parts?_pack h.room generation).symm.trans hparts
  have hhandle : (table.insert object).1 = Handle.pack index generation := by rw [h.insert_eq]
  unfold pass
  dsimp only
  rw [hhandle, hremove, h.insert_without]

theorem passes_of_next {object : α} (h : Next (table.pass object).2 index generation) (n : Nat) :
    (table.passes object (n + 1)).2 = (table.pass object).2.worn n := by
  induction n with
  | zero => exact h.worn_zero.symm
  | succ n ih =>
    rw [passes, ih, pass_of_next (h.worn n), h.worn_worn]

/-- Counting the objects that pass through a table is as good as passing them. -/
theorem recycle_eq_passes (h : table.Sound) (object : α) (n : Nat) :
    table.recycle object n = table.passes object n := by
  match n with
  | 0 => rfl
  | 1 => rfl
  | n + 2 =>
    obtain ⟨index, generation, hnext⟩ := exists_next_pass h object
    rw [recycle, passes, passes_of_next hnext]

end HandleTable
end KernelJit
