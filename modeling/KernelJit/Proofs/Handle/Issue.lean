/-
A handle table is an exact map whose keys are never used twice.

What a table should answer can be read off the commands it has had and the handles it
has issued: `held` lists the handles that were issued and have not been removed since,
with their objects.  `Agrees` says that the table finds just what is on that list, and every
command preserves this while there are not too many objects at once (`agrees_concat`).
`Tracks` says in addition that every handle issued so far is known to the table, and that the
age of a slot is the number of removals from it.  For that no slot may be emptied too often
either (`tracks_concat`): a generation that comes round again takes an old handle with it.
-/
import KernelJit.Proofs.Handle.Age
import KernelJit.Proofs.Run
import Mathlib.Data.List.Induction
import Mathlib.Data.List.Infix

namespace KernelJit
namespace HandleTable

variable {α : Type}

/-- Carry out a command. -/
def step (table : HandleTable α) (command : Command α) : Step (HandleTable α) (Reply α) :=
  .unchanged (table.perform command).2 (table.perform command).1

/-- A command that a table has had, with what came of it. -/
abbrev Deed (α : Type) := Turn (Command α) (HandleTable α) (Reply α)

/-- The turns of the commands that a table has had since it was empty. -/
abbrev history (commands : List (Command α)) : List (Deed α) :=
  Run.turns step empty commands

/-- The table after commands. -/
abbrev reached (commands : List (Command α)) : HandleTable α :=
  Run.final step empty commands

/-- The handle that a turn has issued, with its object. -/
def issue? (turn : Deed α) : Option (Handle × α) :=
  match turn.command, turn.step.result with
  | .insert object, .issued handle => some (handle, object)
  | _, _ => none

/-- The handle whose object a turn has taken out. -/
def ended? (turn : Deed α) : Option Handle :=
  match turn.command, turn.step.result with
  | .remove handle, .object (.ok _) => some handle
  | _, _ => none

/-- All handles issued, with their objects. -/
def issues (turns : List (Deed α)) : List (Handle × α) :=
  turns.filterMap issue?

/-- The handles issued and not removed since, with their objects. -/
def held : List (Deed α) → List (Handle × α)
  | [] => []
  | turn :: rest =>
    (issue? turn).toList.filter (fun issued => rest.all fun later => ended? later ≠ some issued.1)
      ++ held rest

/-- How often an object was taken out of a slot. -/
def removals (index : Nat) (turns : List (Deed α)) : Nat :=
  turns.countP fun turn => ((ended? turn).bind Handle.parts?).map (·.1) = some index

theorem held_concat (turns : List (Deed α)) (turn : Deed α) :
    held (turns ++ [turn]) =
      (held turns).filter (fun issued => ended? turn ≠ some issued.1) ++ (issue? turn).toList := by
  induction turns with
  | nil => simp [held]
  | cons first rest ih =>
    simp only [List.cons_append, held, ih, List.filter_append, List.filter_filter,
      List.append_assoc, List.all_append]
    congr 1
    apply List.filter_congr
    intro issued _
    simp [Bool.and_comm]

theorem length_held_le (turns : List (Deed α)) : (held turns).length ≤ turns.length := by
  induction turns with
  | nil => exact Nat.le_refl 0
  | cons first rest ih =>
    have hfilter := List.length_filter_le
      (fun issued : Handle × α => rest.all fun later => ended? later ≠ some issued.1)
      (issue? first).toList
    have hone : (issue? first).toList.length ≤ 1 := by
      cases issue? first with
      | none => exact Nat.zero_le 1
      | some _ => exact Nat.le_refl 1
    rw [held, List.length_append, List.length_cons]
    omega

/-- A run that is short enough leaves room whatever its commands are. -/
theorem room_of_length {commands : List (Command α)} (h : commands.length < 0xffffffff)
    (before : List (Command α)) (hstart : before <+: commands) :
    (held (history before)).length < 0xffffffff := by
  have hlength := length_held_le (history before)
  have hturns : (history before).length = before.length := by
    rw [← List.length_map (f := (·.command)), Run.map_command_turns]
  have hle := hstart.length_le
  omega

theorem length_filter_ne {entries : List (Handle × α)} (hkeys : (entries.map (·.1)).Nodup)
    {handle : Handle} {object : α} (hmem : (handle, object) ∈ entries) :
    (entries.filter (fun issued => some handle ≠ some issued.1)).length + 1 = entries.length := by
  induction entries with
  | nil => cases hmem
  | cons first rest ih =>
    obtain ⟨hfirst, hrest⟩ := List.nodup_cons.mp hkeys
    rcases List.mem_cons.mp hmem with hhead | htail
    · subst hhead
      have habsent : rest.filter (fun issued => some handle ≠ some issued.1) = rest := by
        rw [List.filter_eq_self]
        intro issued hissued
        have hne : handle ≠ issued.1 := fun hsame =>
          hfirst (List.mem_map.mpr ⟨issued, hissued, hsame.symm⟩)
        simp [hne]
      rw [List.filter_cons_of_neg (by simp), habsent, List.length_cons]
    · have hne : handle ≠ first.1 := fun hsame =>
        hfirst (List.mem_map.mpr ⟨(handle, object), htail, hsame⟩)
      rw [List.filter_cons_of_pos (by simp [hne]), List.length_cons, List.length_cons,
        ih hrest htail]

theorem step_remove_of_error {table : HandleTable α} {handle : Handle} {failure : Failure}
    (h : table.get handle = .error failure) :
    table.step (.remove handle) = .unchanged table (.object (.error failure)) := by
  simp only [step, perform, remove_of_get_error h]

theorem step_remove_of_ok {table : HandleTable α} {handle : Handle} {object : α}
    (h : table.get handle = .ok object) : ∃ index generation,
      handle.parts? = some (index, generation) ∧
        table.slots[index]? = some ⟨generation, some object⟩ ∧
        table.step (.remove handle) =
          .unchanged (table.without index generation) (.object (.ok object)) := by
  obtain ⟨index, generation, hparts, hslot, hremove⟩ := remove_of_get_ok h
  refine ⟨index, generation, hparts, hslot, ?_⟩
  simp only [step, perform, hremove]

/-- What a command can come to: nothing, a new object, or the end of a handle that finds one. -/
inductive CarriedOut (table : HandleTable α) : Deed α → Prop where
  | idle {turn : Deed α} (hissue : issue? turn = none) (hended : ended? turn = none)
      (hstate : turn.step.state = table) : CarriedOut table turn
  | insert (object : α) : CarriedOut table ⟨.insert object, table.step (.insert object)⟩
  | remove {turn : Deed α} {handle : Handle} {object : α} {index : Nat} {generation : UInt32}
      (hparts : handle.parts? = some (index, generation))
      (hslot : table.slots[index]? = some ⟨generation, some object⟩)
      (hissue : issue? turn = none) (hended : ended? turn = some handle)
      (hstate : turn.step.state = table.without index generation) : CarriedOut table turn

theorem carriedOut (table : HandleTable α) (command : Command α) :
    CarriedOut table ⟨command, table.step command⟩ := by
  cases command with
  | insert object => exact .insert object
  | get handle => exact .idle rfl rfl rfl
  | contains handle => exact .idle rfl rfl rfl
  | remove handle =>
    cases hget : table.get handle with
    | error failure =>
      rw [step_remove_of_error hget]
      exact .idle rfl rfl rfl
    | ok object =>
      obtain ⟨index, generation, hparts, hslot, hstep⟩ := step_remove_of_ok hget
      rw [hstep]
      exact .remove hparts hslot rfl rfl rfl

theorem history_concat (commands : List (Command α)) (command : Command α) :
    history (commands ++ [command]) =
      history commands ++ [⟨command, (reached commands).step command⟩] :=
  Run.turns_append _ _ _ _

theorem reached_concat (commands : List (Command α)) (command : Command α) :
    reached (commands ++ [command]) = ((reached commands).step command).state :=
  Run.final_append _ _ _ _

/-! ## The table agrees with what is held -/

/-- A table finds the handles that a history has issued and not ended, and no others. -/
structure Agrees (turns : List (Deed α)) (table : HandleTable α) : Prop where
  sound : table.Sound
  get : ∀ handle object, table.get handle = .ok object ↔ (handle, object) ∈ held turns
  nodup : ((held turns).map (·.1)).Nodup
  occupied : table.occupied = (held turns).length

variable {turns : List (Deed α)} {table : HandleTable α}

theorem agrees_empty : Agrees ([] : List (Deed α)) empty where
  sound := sound_empty
  get handle object := by
    constructor
    · intro h
      obtain ⟨index, generation, _, hslot⟩ := get_eq_ok_iff.mp h
      cases hslot
    · intro h
      cases h
  nodup := List.nodup_nil
  occupied := rfl

namespace Agrees

/-- A turn that issues nothing and ends nothing leaves what is held as it is. -/
theorem same (h : Agrees turns table) {turn : Deed α} (hissue : issue? turn = none)
    (hended : ended? turn = none) : Agrees (turns ++ [turn]) table := by
  have hheld : held (turns ++ [turn]) = held turns := by
    simp [held_concat, hissue, hended]
  refine ⟨h.sound, ?_, ?_, ?_⟩
  · rw [hheld]
    exact h.get
  · rw [hheld]
    exact h.nodup
  · rw [hheld]
    exact h.occupied

/-- The slot that an insertion writes has no object, so its handle is not held before. -/
theorem insert (h : Agrees turns table) (object : α)
    (hroom : (held (turns ++ [⟨.insert object, table.step (.insert object)⟩])).length <
      0xffffffff) :
    Agrees (turns ++ [⟨.insert object, table.step (.insert object)⟩])
      (table.insert object).2 := by
  have hissue : issue? (⟨.insert object, table.step (.insert object)⟩ : Deed α) =
      some ((table.insert object).1, object) := rfl
  have hended : ended? (⟨.insert object, table.step (.insert object)⟩ : Deed α) = none := rfl
  have hheld : held (turns ++ [⟨.insert object, table.step (.insert object)⟩]) =
      held turns ++ [((table.insert object).1, object)] := by
    simp [held_concat, hissue, hended]
  have hcount := occupied_insert h.sound object
  have hold := h.occupied
  rw [hheld, List.length_append, List.length_singleton] at hroom
  have hnew : ∀ found, ((table.insert object).1, found) ∉ held turns := fun found hmem =>
    not_known_insert h.sound object (Or.inl ⟨found, (h.get _ _).mpr hmem⟩)
  refine ⟨sound_insert h.sound object (by omega), ?_, ?_, ?_⟩
  · intro handle found
    rw [hheld, List.mem_append, List.mem_singleton, Prod.mk.injEq]
    by_cases hsame : handle = (table.insert object).1
    · subst hsame
      rw [get_insert_self h.sound]
      simp only [Except.ok.injEq, hnew found, true_and, false_or]
      exact eq_comm
    · rw [get_insert_of_ne h.sound object hsame, h.get]
      simp [hsame]
  · rw [hheld, List.map_append, List.nodup_append]
    refine ⟨h.nodup, by simp, ?_⟩
    intro a ha b hb hsame
    obtain ⟨issued, hmem, rfl⟩ := List.mem_map.mp ha
    rw [List.map_singleton, List.mem_singleton] at hb
    apply hnew issued.2
    rw [← hb, ← hsame]
    exact hmem
  · rw [hheld, List.length_append, List.length_singleton]
    omega

theorem remove (h : Agrees turns table) {handle : Handle} {object : α} {index : Nat}
    {generation : UInt32} (hparts : handle.parts? = some (index, generation))
    (hslot : table.slots[index]? = some ⟨generation, some object⟩)
    {turn : Deed α} (hissue : issue? turn = none) (hended : ended? turn = some handle) :
    Agrees (turns ++ [turn]) (table.without index generation) := by
  have hheld : held (turns ++ [turn]) =
      (held turns).filter (fun issued => some handle ≠ some issued.1) := by
    simp [held_concat, hissue, hended]
  have hobject : table.get handle = .ok object :=
    get_eq_ok_iff.mpr ⟨index, generation, hparts, hslot⟩
  refine ⟨sound_without h.sound hslot, ?_, ?_, ?_⟩
  · intro other found
    rw [hheld, List.mem_filter]
    by_cases hsame : other = handle
    · subst hsame
      rw [get_without_self hparts hslot]
      simp
    · rw [get_without_of_ne hparts hslot hsame, h.get]
      simp [Ne.symm hsame]
  · rw [hheld]
    exact h.nodup.sublist (List.filter_sublist.map _)
  · have hcount := occupied_without hslot
    have hlength := length_filter_ne h.nodup ((h.get handle object).mp hobject)
    have hold := h.occupied
    rw [hheld]
    omega

end Agrees

theorem agrees_concat (h : Agrees turns table) {turn : Deed α} (hturn : CarriedOut table turn)
    (hroom : (held (turns ++ [turn])).length < 0xffffffff) :
    Agrees (turns ++ [turn]) turn.step.state := by
  cases hturn with
  | idle hissue hended hstate =>
    rw [hstate]
    exact h.same hissue hended
  | insert object => exact h.insert object hroom
  | remove hparts hslot hissue hended hstate =>
    rw [hstate]
    exact h.remove hparts hslot hissue hended

theorem agrees_reached (commands : List (Command α))
    (hroom : ∀ before, before <+: commands → (held (history before)).length < 0xffffffff) :
    Agrees (history commands) (reached commands) := by
  -- The run grows at its end, so that what is said of all commands holds before the last.
  induction commands using List.reverseRecOn with
  | nil => exact agrees_empty
  | append_singleton commands command ih =>
    have hfull := hroom _ List.prefix_rfl
    rw [history_concat] at hfull ⊢
    rw [reached_concat]
    refine agrees_concat (ih ?_) (carriedOut _ command) hfull
    intro before hstart
    exact hroom before (hstart.trans (List.prefix_append _ _))

/-! ## The table keeps track -/

/-- A table knows what became of the handles that a history has issued. -/
structure Tracks (turns : List (Deed α)) (table : HandleTable α) : Prop where
  sound : table.Sound
  get : ∀ handle object, table.get handle = .ok object ↔ (handle, object) ∈ held turns
  nodup : ((held turns).map (·.1)).Nodup
  occupied : table.occupied = (held turns).length
  known : ∀ issued ∈ issues turns, table.Known issued.1
  age : ∀ index, table.age index = removals index turns

theorem tracks_empty : Tracks ([] : List (Deed α)) empty where
  sound := agrees_empty.sound
  get := agrees_empty.get
  nodup := agrees_empty.nodup
  occupied := agrees_empty.occupied
  known _ h := by cases h
  age _ := rfl

theorem Tracks.agrees (h : Tracks turns table) : Agrees turns table where
  sound := h.sound
  get := h.get
  nodup := h.nodup
  occupied := h.occupied

/-- A handle that an insertion issues was not issued before. -/
theorem Tracks.fresh (h : Tracks turns table) (object : α) :
    (table.insert object).1 ∉ (issues turns).map (·.1) := by
  intro hmem
  obtain ⟨issued, hissued, hsame⟩ := List.mem_map.mp hmem
  exact not_known_insert h.sound object (hsame ▸ h.known issued hissued)

/-- What a turn that issues nothing and ends nothing leaves to keep track of. -/
theorem Tracks.same (h : Tracks turns table) {turn : Deed α} (hissue : issue? turn = none)
    (hended : ended? turn = none) : Tracks (turns ++ [turn]) table := by
  have hagrees := h.agrees.same hissue hended
  have hissues : issues (turns ++ [turn]) = issues turns := by
    simp [issues, hissue]
  refine ⟨hagrees.sound, hagrees.get, hagrees.nodup, hagrees.occupied, ?_, ?_⟩
  · rw [hissues]
    exact h.known
  · intro index
    rw [h.age, removals, removals, List.countP_append]
    simp [hended]

theorem Tracks.insert (h : Tracks turns table) (object : α)
    (hroom : (held (turns ++ [⟨.insert object, table.step (.insert object)⟩])).length <
      0xffffffff) :
    Tracks (turns ++ [⟨.insert object, table.step (.insert object)⟩])
      (table.insert object).2 := by
  have hagrees := h.agrees.insert object hroom
  have hissue : issue? (⟨.insert object, table.step (.insert object)⟩ : Deed α) =
      some ((table.insert object).1, object) := rfl
  have hended : ended? (⟨.insert object, table.step (.insert object)⟩ : Deed α) = none := rfl
  refine ⟨hagrees.sound, hagrees.get, hagrees.nodup, hagrees.occupied, ?_, ?_⟩
  · intro issued hmem
    rw [issues, List.filterMap_append, List.mem_append] at hmem
    rcases hmem with hmem | hmem
    · exact known_insert h.sound (h.known issued hmem) object
    · have hself : issued = ((table.insert object).1, object) := by
        simpa [hissue] using hmem
      rw [hself]
      exact Or.inl ⟨object, get_insert_self h.sound object⟩
  · intro index
    rw [age_insert h.sound, h.age, removals, removals, List.countP_append]
    simp [hended]

theorem Tracks.remove (h : Tracks turns table) {handle : Handle} {object : α} {index : Nat}
    {generation : UInt32} (hparts : handle.parts? = some (index, generation))
    (hslot : table.slots[index]? = some ⟨generation, some object⟩)
    {turn : Deed α} (hissue : issue? turn = none) (hended : ended? turn = some handle)
    (hworn : removals index (turns ++ [turn]) < 0x100000000) :
    Tracks (turns ++ [turn]) (table.without index generation) := by
  have hagrees := h.agrees.remove hparts hslot hissue hended
  have hremovals : ∀ i, removals i (turns ++ [turn]) =
      removals i turns + if i = index then 1 else 0 := by
    intro i
    rw [removals, removals, List.countP_append, List.countP_singleton, hended]
    simp [hparts, eq_comm]
  have hlast : table.age index + 1 < 0x100000000 := by
    rw [hremovals, if_pos rfl, ← h.age] at hworn
    exact hworn
  refine ⟨hagrees.sound, hagrees.get, hagrees.nodup, hagrees.occupied, ?_, ?_⟩
  · intro issued hmem
    have hold : issued ∈ issues turns := by
      rw [issues, List.filterMap_append, List.mem_append] at hmem
      rcases hmem with hmem | hmem
      · exact hmem
      · simp [hissue] at hmem
    exact known_without hparts hslot hlast (h.known issued hold)
  · intro i
    rw [age_without hslot hlast, h.age, hremovals]

theorem tracks_concat (h : Tracks turns table) {turn : Deed α} (hturn : CarriedOut table turn)
    (hroom : (held (turns ++ [turn])).length < 0xffffffff)
    (hworn : ∀ index, removals index (turns ++ [turn]) < 0x100000000) :
    Tracks (turns ++ [turn]) turn.step.state := by
  cases hturn with
  | idle hissue hended hstate =>
    rw [hstate]
    exact h.same hissue hended
  | insert object => exact h.insert object hroom
  | remove hparts hslot hissue hended hstate =>
    rw [hstate]
    exact h.remove hparts hslot hissue hended (hworn _)

theorem tracks_reached (commands : List (Command α))
    (hroom : ∀ before, before <+: commands → (held (history before)).length < 0xffffffff)
    (hworn : ∀ index, removals index (history commands) < 0x100000000) :
    Tracks (history commands) (reached commands) := by
  -- The run grows at its end, so that what is said of all commands holds before the last.
  induction commands using List.reverseRecOn with
  | nil => exact tracks_empty
  | append_singleton commands command ih =>
    have hfull := hroom _ List.prefix_rfl
    rw [history_concat] at hfull hworn ⊢
    rw [reached_concat]
    refine tracks_concat (ih ?_ ?_) (carriedOut _ command) hfull hworn
    · intro before hstart
      exact hroom before (hstart.trans (List.prefix_append _ _))
    · intro index
      refine Nat.lt_of_le_of_lt ?_ (hworn index)
      rw [removals, removals, List.countP_append]
      exact Nat.le_add_right _ _

/-! ## The law -/

/-- A handle table is an exact map with keys that never repeat.  In a run with fewer than
`0xffffffff` objects at once, in which no slot is emptied `0x100000000` times, an insertion
issues a handle that is not null and was not issued before; a look-up, a removal and a
test succeed exactly for the handles that were issued and not removed since, whatever
numbers the callers present, and find the object that the handle was issued for; a removal
ends its own handle, and neither it nor an insertion changes what any other handle finds;
a command that fails changes nothing; and the size is the number of handles held. -/
theorem exact_map (commands : List (Command α))
    (hroom : ∀ before, before <+: commands → (held (history before)).length < 0xffffffff)
    (hworn : ∀ index, removals index (history commands) < 0x100000000) :
    (∀ before command, before ++ [command] <+: commands →
      let table := reached before
      let step := table.step command
      match command with
      | .insert object => ∃ handle, step.result = .issued handle ∧ handle ≠ Handle.null ∧
          handle ∉ (issues (history before)).map (·.1) ∧
          step.state.get handle = .ok object ∧
          ∀ other, other ≠ handle → step.state.get other = table.get other
      | .get handle => step.state = table ∧ ∃ reply, step.result = .object reply ∧
          ∀ object, reply = .ok object ↔ (handle, object) ∈ held (history before)
      | .contains handle => step.state = table ∧ ∃ yes, step.result = .answer yes ∧
          (yes = true ↔ ∃ object, (handle, object) ∈ held (history before))
      | .remove handle => ∃ reply, step.result = .object reply ∧
          (∀ object, reply = .ok object ↔ (handle, object) ∈ held (history before)) ∧
          (∀ failure, reply = .error failure → step.state = table) ∧
          (∀ object, reply = .ok object → ∀ found, step.state.get handle ≠ .ok found) ∧
          ∀ other, other ≠ handle → step.state.get other = table.get other) ∧
    ∀ before, before <+: commands →
      let table := reached before
      (∀ handle object, table.get handle = .ok object ↔ (handle, object) ∈ held (history before)) ∧
      ((held (history before)).map (·.1)).Nodup ∧
      table.size = (held (history before)).length ∧
      (table.isEmpty = true ↔ held (history before) = []) := by
  have htracks : ∀ before, before <+: commands → Tracks (history before) (reached before) := by
    intro before hstart
    obtain ⟨after, rfl⟩ := hstart
    apply tracks_reached before
    · intro shorter hshorter
      exact hroom shorter (hshorter.trans (List.prefix_append _ _))
    · intro index
      refine Nat.lt_of_le_of_lt ?_ (hworn index)
      rw [show history (before ++ after) = history before ++ _ from Run.turns_append _ _ _ _,
        removals, removals, List.countP_append]
      exact Nat.le_add_right _ _
  constructor
  · intro before command hstart table step
    have h := htracks before ((List.prefix_append _ _).trans hstart)
    cases command with
    | insert object =>
      exact ⟨_, rfl, insert_ne_null h.sound object, h.fresh object,
        get_insert_self h.sound object, fun other hne => get_insert_of_ne h.sound object hne⟩
    | get handle => exact ⟨rfl, _, rfl, h.get handle⟩
    | contains handle =>
      refine ⟨rfl, _, rfl, contains_eq_true_iff.trans ?_⟩
      exact exists_congr (h.get handle)
    | remove handle =>
      cases hget : table.get handle with
      | error failure =>
        have hstep : step = .unchanged table (.object (.error failure)) :=
          step_remove_of_error hget
        refine ⟨.error failure, by rw [hstep]; rfl, ?_, ?_, ?_, ?_⟩
        · intro object
          rw [← h.get handle object, hget]
        · intro _ _
          rw [hstep]
          rfl
        · intro object hok
          cases hok
        · intro other _
          rw [hstep]
          rfl
      | ok object =>
        obtain ⟨index, generation, hparts, hslot, hstep⟩ := step_remove_of_ok hget
        have hstep' : step = .unchanged (table.without index generation) (.object (.ok object)) :=
          hstep
        refine ⟨.ok object, by rw [hstep']; rfl, ?_, ?_, ?_, ?_⟩
        · intro found
          rw [← h.get handle found, hget]
        · intro failure herror
          cases herror
        · intro _ _ found hfound
          rw [hstep'] at hfound
          cases (get_without_self hparts hslot).symm.trans hfound
        · intro other hne
          rw [hstep']
          exact get_without_of_ne hparts hslot hne
  · intro before hstart table
    have h := htracks before hstart
    have hsize : table.size = (held (history before)).length :=
      h.sound.live.trans h.occupied
    refine ⟨h.get, h.nodup, hsize, ?_⟩
    unfold isEmpty
    rw [beq_iff_eq, hsize, List.length_eq_zero_iff]

/-- A slot is used again: the first handle stays dead, and the second is another one. -/
theorem exact_map_reused :
    let commands : List (Command String) :=
      [.insert "first", .remove 1, .remove 1, .insert "second", .get 1, .contains 0x100000001]
    (∀ before, before <+: commands → (held (history before)).length < 0xffffffff) ∧
      (∀ index, removals index (history commands) < 0x100000000) ∧
      (reached commands).size = (held (history commands)).length ∧
      held (history commands) = [(0x100000001, "second")] := by
  intro commands
  have hroom : ∀ before, before <+: commands →
      (held (history before)).length < 0xffffffff := by
    intro before hstart
    have hlength := length_held_le (history before)
    have hturns : (history before).length = before.length := by
      rw [← List.length_map (f := (·.command)), Run.map_command_turns]
    have hle : before.length ≤ 6 := hstart.length_le
    omega
  have hworn : ∀ index, removals index (history commands) < 0x100000000 := by
    intro index
    have hle : removals index (history commands) ≤ 6 := List.countP_le_length
    omega
  exact ⟨hroom, hworn, ((exact_map commands hroom hworn).2 commands List.prefix_rfl).2.2.1,
    by decide⟩

end HandleTable
end KernelJit
