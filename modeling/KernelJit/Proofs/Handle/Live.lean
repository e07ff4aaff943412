/-
The handles that find an object, as a list.

A table counts its objects but does not list their handles.  `handles` reads them off the slots,
and in a sound table these are the handles that find something (`mem_handles`), each once
(`nodup_handles`), and as many as the table counts (`length_handles`).  The indices must be
below the last 32-bit number for this: past it, the handles of two slots would be the same.
-/
import KernelJit.Proofs.Handle.Slots
import Mathlib.Data.List.Nodup

namespace KernelJit
namespace HandleTable

variable {α : Type} {table : HandleTable α}

/-- The handles of the objects of a table, in the order of their slots. -/
def handles (table : HandleTable α) : List Handle :=
  (table.slots.zipIdx.filter (·.1.occupant.isSome)).map fun entry =>
    Handle.pack (UInt32.ofNat entry.2) entry.1.generation

theorem parts?_of_slot (h : table.Sound) {index : Nat} {slot : Slot α}
    (hslot : table.slots[index]? = some slot) :
    (Handle.pack (UInt32.ofNat index) slot.generation).parts? = some (index, slot.generation) := by
  have hroom := h.room
  have hlt := (List.getElem?_eq_some_iff.mp hslot).1
  exact Handle.parts?_pack_ofNat (by omega) slot.generation

theorem mem_handles (h : table.Sound) {handle : Handle} :
    handle ∈ table.handles ↔ ∃ object, table.get handle = .ok object := by
  unfold handles
  rw [List.mem_map]
  constructor
  · rintro ⟨⟨slot, index⟩, hmem, rfl⟩
    obtain ⟨hslot, hsome⟩ := List.mem_filter.mp hmem
    rw [List.mem_zipIdx_iff_getElem?] at hslot
    obtain ⟨object, hobject⟩ := Option.isSome_iff_exists.mp hsome
    refine ⟨object, get_eq_ok_iff.mpr ⟨index, slot.generation, parts?_of_slot h hslot, ?_⟩⟩
    rw [← hobject]
    exact hslot
  · rintro ⟨object, hget⟩
    obtain ⟨index, generation, hparts, hslot⟩ := get_eq_ok_iff.mp hget
    refine ⟨(⟨generation, some object⟩, index), ?_, ?_⟩
    · exact List.mem_filter.mpr ⟨List.mem_zipIdx_iff_getElem?.mpr hslot, rfl⟩
    · exact Handle.eq_of_parts? (parts?_of_slot h hslot) hparts

theorem nodup_handles (h : table.Sound) : table.handles.Nodup := by
  have hindices : table.slots.zipIdx.Nodup := by
    apply List.Nodup.of_map Prod.snd
    rw [List.zipIdx_map_snd]
    exact List.nodup_range'
  refine List.Nodup.map_on ?_ (hindices.filter _)
  rintro ⟨slot, index⟩ hmem ⟨other, place⟩ hmem' hsame
  have hslot := List.mem_zipIdx_iff_getElem?.mp (List.mem_filter.mp hmem).1
  have hother := List.mem_zipIdx_iff_getElem?.mp (List.mem_filter.mp hmem').1
  have hparts := parts?_of_slot h hslot
  rw [hsame, parts?_of_slot h hother] at hparts
  have hplace : place = index := congrArg Prod.fst (Option.some.inj hparts)
  subst hplace
  exact congrArg (·, place) (Option.some.inj (hslot.symm.trans hother))

theorem length_handles (h : table.Sound) : table.handles.length = table.size := by
  rw [handles, List.length_map, ← List.countP_eq_length_filter, size, h.live, occupied]
  have hslots : table.slots.zipIdx.map Prod.fst = table.slots := List.zipIdx_map_fst 0 _
  conv_rhs => rw [← hslots, List.countP_map]
  rfl

end HandleTable
end KernelJit
