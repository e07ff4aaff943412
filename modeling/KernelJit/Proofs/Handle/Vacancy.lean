/-
The slots of a table, with an object and without.

Three things tell which slots are in use: the slots themselves, the list of the vacant
indices and the count of the objects.  In a sound table they agree, so that the objects and
the vacant indices together are as many as the slots (`live_add_vacant`).

A slot is never given up, and a new one is opened only when every slot has an object.  One
command therefore leaves as many slots as there were, or as there are objects now, whichever
is more (`length_slots_step`), and a run leaves as many slots as it has had objects at once
(`isGreatest_length_slots`).  Nothing is asked of the generations here: they may come round
as often as they like.
-/
import KernelJit.Proofs.Handle.Issue
import Mathlib.Data.List.Nodup
import Mathlib.Order.Bounds.Basic

namespace KernelJit
namespace HandleTable

variable {α : Type} {table : HandleTable α}

/-! ## Sound tables -/

/-- The vacant indices are those of the slots without an object, in another order. -/
theorem perm_vacant (h : table.Sound) :
    (table.vacant.map UInt32.toNat).Perm
      ((table.slots.zipIdx.filter (·.1.occupant.isNone)).map Prod.snd) := by
  have hvacant : (table.vacant.map UInt32.toNat).Nodup :=
    h.nodup.map fun _ _ hsame => UInt32.toNat_inj.mp hsame
  have hempty : ((table.slots.zipIdx.filter (·.1.occupant.isNone)).map Prod.snd).Nodup := by
    refine List.Nodup.sublist (List.filter_sublist.map Prod.snd) ?_
    rw [List.zipIdx_map_snd]
    exact List.nodup_range'
  rw [List.perm_ext_iff_of_nodup hvacant hempty]
  intro i
  rw [mem_map_vacant h, List.mem_map]
  constructor
  · intro hslot
    obtain ⟨generation, hslot⟩ := hslot
    refine ⟨(⟨generation, none⟩, i), List.mem_filter.mpr ⟨?_, rfl⟩, rfl⟩
    exact List.mem_zipIdx_iff_getElem?.mpr hslot
  · intro hentry
    obtain ⟨⟨slot, index⟩, hmem, rfl⟩ := hentry
    obtain ⟨hslot, hnone⟩ := List.mem_filter.mp hmem
    have hoccupant : slot.occupant = none := Option.isNone_iff_eq_none.mp hnone
    refine ⟨slot.generation, ?_⟩
    rw [← hoccupant]
    exact List.mem_zipIdx_iff_getElem?.mp hslot

theorem length_vacant (h : table.Sound) :
    table.vacant.length = table.slots.countP (·.occupant.isNone) := by
  have hslots : table.slots.zipIdx.map Prod.fst = table.slots := List.zipIdx_map_fst 0 _
  calc table.vacant.length
      = (table.vacant.map UInt32.toNat).length := (List.length_map _).symm
    _ = (table.slots.zipIdx.filter (·.1.occupant.isNone)).length := by
        rw [(perm_vacant h).length_eq, List.length_map]
    _ = (table.slots.zipIdx.map Prod.fst).countP (·.occupant.isNone) := by
        rw [← List.countP_eq_length_filter, List.countP_map]
        rfl
    _ = table.slots.countP (·.occupant.isNone) := by rw [hslots]

/-- Every slot is counted as an object or listed as vacant. -/
theorem live_add_vacant (h : table.Sound) :
    table.live + table.vacant.length = table.slots.length := by
  rw [h.live, length_vacant h, occupied,
    List.length_eq_countP_add_countP fun slot : Slot α => slot.occupant.isSome]
  congr 2
  funext slot
  cases slot.occupant with
  | none => rfl
  | some object => rfl

/-! ## The number of slots -/

theorem occupied_le_length (table : HandleTable α) : table.occupied ≤ table.slots.length :=
  List.countP_le_length

theorem length_slots_insert (h : table.Sound) (object : α) :
    (table.insert object).2.slots.length =
      max (table.insert object).2.occupied table.slots.length := by
  have hcount := occupied_insert h object
  have hslots := live_add_vacant h
  have hlive := h.live
  cases hvacant : table.vacant with
  | nil =>
    have hlength : (table.insert object).2.slots.length = table.slots.length + 1 := by
      simp [insert, hvacant]
    rw [hvacant, List.length_nil] at hslots
    omega
  | cons index rest =>
    have hlength : (table.insert object).2.slots.length = table.slots.length := by
      simp [insert, hvacant]
    rw [hvacant, List.length_cons] at hslots
    omega

/-- A command opens a slot only when the objects are more than the slots there were. -/
theorem length_slots_step (h : table.Sound) {turn : Deed α} (hturn : CarriedOut table turn) :
    turn.step.state.slots.length = max turn.step.state.occupied table.slots.length := by
  cases hturn with
  | idle _ _ hstate =>
    rw [hstate]
    exact (Nat.max_eq_right (occupied_le_length table)).symm
  | insert object => exact length_slots_insert h object
  | @remove _ _ _ index generation _ _ _ _ hstate =>
    have hlength : (table.without index generation).slots.length = table.slots.length := by
      simp [without]
    have hle := occupied_le_length (table.without index generation)
    rw [hstate]
    omega

/-! ## Runs -/

/-- The numbers of objects that were held at some time in a run. -/
def populations (commands : List (Command α)) : Set Nat :=
  {n | ∃ before, before <+: commands ∧ n = (held (history before)).length}

theorem populations_nil : populations ([] : List (Command α)) = {0} := by
  ext n
  simp [populations, held, Run.turns]

theorem populations_concat (commands : List (Command α)) (command : Command α) :
    populations (commands ++ [command]) =
      {(held (history (commands ++ [command]))).length} ∪ populations commands := by
  ext n
  simp only [populations, List.prefix_concat_iff, Set.mem_union, Set.mem_singleton_iff,
    Set.mem_ofPred_eq]
  constructor
  · intro h
    obtain ⟨before, rfl | hstart, hn⟩ := h
    · exact Or.inl hn
    · exact Or.inr ⟨before, hstart, hn⟩
  · intro h
    rcases h with hn | ⟨before, hstart, hn⟩
    · exact ⟨_, Or.inl rfl, hn⟩
    · exact ⟨before, Or.inr hstart, hn⟩

/-- A run leaves as many slots as it has held objects at once. -/
theorem isGreatest_length_slots (commands : List (Command α))
    (hroom : ∀ before, before <+: commands → (held (history before)).length < 0xffffffff) :
    IsGreatest (populations commands) (reached commands).slots.length := by
  induction commands using List.reverseRecOn with
  | nil =>
    rw [populations_nil]
    exact isGreatest_singleton
  | append_singleton commands command ih =>
    have hbefore : ∀ before, before <+: commands → (held (history before)).length < 0xffffffff :=
      fun before hstart => hroom before (hstart.trans (List.prefix_append _ _))
    have hsound := (agrees_reached commands hbefore).sound
    have hoccupied := (agrees_reached _ hroom).occupied
    have hslots := length_slots_step hsound (carriedOut (reached commands) command)
    rw [reached_concat] at hoccupied ⊢
    rw [populations_concat, hslots, hoccupied]
    exact isGreatest_singleton.union (ih hbefore)

/-- The slots, the vacant indices and the count of objects agree after every run with fewer
than `0xffffffff` objects at once, whatever handles the callers present.  The vacant indices
are those of the slots without an object, each once; the count is the number of slots with
an object, which is the number of objects held, and makes up the number of slots together
with the vacant indices; and there are as many slots as there have ever been objects at
once.  So the index that an insertion takes is that of a slot which is there and has no
object, and a removal that finds an object has one to count down. -/
theorem slots_accounted (commands : List (Command α))
    (hroom : ∀ before, before <+: commands → (held (history before)).length < 0xffffffff) :
    let table := reached commands
    (table.vacant.Nodup ∧ ∀ i, i ∈ table.vacant.map UInt32.toNat ↔
      ∃ generation, table.slots[i]? = some ⟨generation, none⟩) ∧
    (table.live = table.slots.countP (·.occupant.isSome) ∧
      table.live = (held (history commands)).length ∧
      table.live + table.vacant.length = table.slots.length) ∧
    IsGreatest (populations commands) table.slots.length ∧
    (∀ index rest, table.vacant = index :: rest →
      ∃ generation, table.slots[index.toNat]? = some ⟨generation, none⟩) ∧
    ∀ handle object after, table.remove handle = .ok (object, after) →
      after.live + 1 = table.live := by
  intro table
  have h : Agrees (history commands) table := agrees_reached commands hroom
  have hlive := h.sound.live
  refine ⟨⟨h.sound.nodup, fun i => mem_map_vacant h.sound⟩,
    ⟨hlive, hlive.trans h.occupied, live_add_vacant h.sound⟩,
    isGreatest_length_slots commands hroom, ?_, ?_⟩
  · intro index rest hvacant
    exact (h.sound.mem_vacant index).mp (by simp [hvacant])
  · intro handle object after hremove
    cases hget : table.get handle with
    | error failure =>
      rw [remove_of_get_error hget] at hremove
      cases hremove
    | ok found =>
      obtain ⟨index, generation, _, hslot, hfound⟩ := remove_of_get_ok hget
      rw [hfound] at hremove
      cases hremove
      have hcount := occupied_without hslot
      show table.live - 1 + 1 = table.live
      omega

/-- Two objects at once and a third one later: a slot is used again, a stale handle and a
forged one remove nothing, and two slots are enough. -/
theorem slots_accounted_reused :
    let commands : List (Command String) :=
      [.insert "first", .insert "second", .remove 1, .remove 1, .remove 0x500000002,
        .insert "third", .remove 2]
    (∀ before, before <+: commands → (held (history before)).length < 0xffffffff) ∧
      held (history commands) = [(0x100000001, "third")] ∧
      (reached commands).live = (held (history commands)).length ∧
      (reached commands).vacant = [1] ∧ IsGreatest (populations commands) 2 := by
  intro commands
  have hroom : ∀ before, before <+: commands → (held (history before)).length < 0xffffffff :=
    room_of_length (by decide)
  obtain ⟨_, ⟨_, hlive, _⟩, hmost, _⟩ := slots_accounted commands hroom
  exact ⟨hroom, by decide, hlive, by decide, hmost⟩

end HandleTable
end KernelJit
