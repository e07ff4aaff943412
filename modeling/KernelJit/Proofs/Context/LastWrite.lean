/-
A registry as a map from names to objects.

Under a name stands what was inserted there last, unless the name was erased or the registry
cleared since then.  Said of the commands that a registry has had since it was empty, the operator
under a name is that of the last command that writes the name, if that is an insertion, and it is
the object that was made then (`find?_reached`).  A command that does not write a name leaves it
alone (`find?_step_of_not_writes`), so a run grows at its end and only the last command matters.
The listing is exact because the names stay in order (`sorted_step`).
-/
import KernelJit.Proofs.Context.Names

namespace KernelJit
namespace Registry

/-- A command that settles what stands under a name. -/
def Command.Writes (name : String) : Command → Prop
  | .insert written _ | .erase written => written = name
  | .clear => True
  | .find _ | .contains _ => False

/-- Carry out a command, as a step. -/
def step (registry : Registry) (command : Command) : Step Registry Reply :=
  .unchanged (registry.perform command).2 (registry.perform command).1

/-- The registry after commands. -/
abbrev reached (commands : List Command) : Registry :=
  Run.final step empty commands

/-- How many operators commands register. -/
def insertions (commands : List Command) : Nat :=
  commands.countP fun
    | .insert .. => true
    | .find _ | .erase _ | .contains _ | .clear => false

theorem insertions_concat (commands : List Command) (command : Command) :
    insertions (commands ++ [command]) = insertions commands + insertions [command] :=
  List.countP_append

/-! ## One command -/

variable {registry : Registry} {command : Command} {name : String}

theorem registered_step (registry : Registry) (command : Command) :
    (registry.step command).state.registered = registry.registered + insertions [command] := by
  cases command <;> rfl

theorem find?_step_of_not_writes (h : ¬command.Writes name) :
    (registry.step command).state.find? name = registry.find? name := by
  cases command with
  | insert written operator => exact find?_insert_of_ne registry h operator
  | erase written => exact find?_erase_of_ne registry h
  | clear => exact absurd trivial h
  | find _ => rfl
  | contains _ => rfl

/-- A command that writes a name leaves the operator that it inserts there, or none. -/
theorem find?_step_of_writes (h : command.Writes name) :
    (∃ value, command = .insert name value ∧
      (registry.step command).state.find? name = some { id := registry.registered, value }) ∨
    ((∀ value, command ≠ .insert name value) ∧
      (registry.step command).state.find? name = none) := by
  cases command with
  | insert written value =>
    obtain rfl : written = name := h
    exact Or.inl ⟨value, rfl, find?_insert_self registry written value⟩
  | erase written =>
    obtain rfl : written = name := h
    exact Or.inr ⟨fun _ hsame => (nomatch hsame), find?_erase_self registry written⟩
  | clear => exact Or.inr ⟨fun _ hsame => (nomatch hsame), find?_clear registry name⟩
  | find _ => exact h.elim
  | contains _ => exact h.elim

theorem sorted_erase (h : registry.Sorted) (name : String) : (registry.erase name).2.Sorted :=
  h.sublist List.filter_sublist

theorem sorted_step (h : registry.Sorted) (command : Command) :
    (registry.step command).state.Sorted := by
  cases command with
  | insert name operator => exact sorted_insert h name operator
  | erase name => exact sorted_erase h name
  | clear => exact sorted_empty
  | find _ => exact h
  | contains _ => exact h

/-! ## Runs -/

theorem reached_concat (commands : List Command) (command : Command) :
    reached (commands ++ [command]) = ((reached commands).step command).state :=
  Run.final_append _ _ _ _

theorem registered_reached (commands : List Command) :
    (reached commands).registered = insertions commands := by
  induction commands using List.reverseRecOn with
  | nil => rfl
  | append_singleton commands command ih =>
    rw [reached_concat, registered_step, ih, insertions_concat]

theorem sorted_reached (commands : List Command) : (reached commands).Sorted := by
  refine Run.final_of_preserved sorted_empty ?_
  intro registry turn _ hsorted hturn
  rw [hturn]
  exact sorted_step hsorted turn.command

/-- The last command that writes a name is the insertion of an operator, which has the number of
the insertions before it. -/
def Stands (commands : List Command) (name : String) (operator : Shared Operator) : Prop :=
  ∃ before after, commands = before ++ .insert name operator.value :: after ∧
    operator.id = insertions before ∧ ∀ later ∈ after, ¬later.Writes name

variable {commands : List Command} {operator : Shared Operator}

theorem stands_concat : Stands (commands ++ [command]) name operator ↔
    (command = .insert name operator.value ∧ operator.id = insertions commands) ∨
      (¬command.Writes name ∧ Stands commands name operator) := by
  constructor
  · rintro ⟨before, after, hsplit, hid, hlater⟩
    obtain ⟨rfl, rfl, rfl⟩ | ⟨rest, rfl, hcommands⟩ := concat_eq_append_cons_iff.mp hsplit
    · exact Or.inl ⟨rfl, hid⟩
    · obtain ⟨hrest, hlast⟩ := List.forall_mem_append.mp hlater
      exact Or.inr ⟨hlast command List.mem_cons_self, before, rest, hcommands, hid, hrest⟩
  · rintro (⟨rfl, hid⟩ | ⟨hnot, before, after, hcommands, hid, hlater⟩)
    · exact ⟨commands, [], rfl, hid, List.forall_mem_nil _⟩
    · refine ⟨before, after ++ [command],
        concat_eq_append_cons_iff.mpr (Or.inr ⟨after, rfl, hcommands⟩), hid, ?_⟩
      exact List.forall_mem_append.mpr ⟨hlater, List.forall_mem_singleton.mpr hnot⟩

theorem find?_reached (commands : List Command) (name : String) (operator : Shared Operator) :
    (reached commands).find? name = some operator ↔ Stands commands name operator := by
  -- The run grows at its end, where a command that writes the name settles it.
  induction commands using List.reverseRecOn with
  | nil =>
    refine iff_of_false (fun h => by cases h) ?_
    rintro ⟨before, after, hnil, _⟩
    exact List.append_ne_nil_of_right_ne_nil before (List.cons_ne_nil _ after) hnil.symm
  | append_singleton commands command ih =>
    rw [reached_concat, stands_concat]
    by_cases hwrites : command.Writes name
    · rw [or_iff_left (fun h => h.1 hwrites)]
      obtain ⟨value, rfl, hfind⟩ | ⟨hother, hfind⟩ := find?_step_of_writes hwrites
      · rw [hfind, registered_reached, Option.some.injEq]
        constructor
        · rintro rfl
          exact ⟨rfl, rfl⟩
        · rintro ⟨hsame, hid⟩
          cases operator
          cases hsame
          rw [← hid]
      · rw [hfind]
        exact iff_of_false (fun h => by cases h) (fun h => hother _ h.1)
    · rw [find?_step_of_not_writes hwrites, ih, or_iff_right, and_iff_right hwrites]
      rintro ⟨rfl, _⟩
      exact hwrites rfl

/-! ## The listing -/

theorem Sorted.names_pairwise (h : registry.Sorted) :
    registry.names.Pairwise fun a b => Utf8.encode a < Utf8.encode b := by
  refine List.pairwise_map.mpr (h.imp ?_)
  exact Utf8.precedes_iff.mp

/-- A registry is a map from names to objects in which the last write counts.  After any commands,
a name has the operator of the last command that writes it, if that is an insertion, as the object
that was made then.  An insertion and an erasure answer the object that was there just before, and
change no other name; a look-up changes nothing.  The listed names are those that have an
operator, in the strict order of their bytes, and the size is their number. -/
theorem last_write_wins (commands : List Command) :
    let registry := reached commands
    (∀ name operator, registry.find? name = some operator ↔
      ∃ before after, commands = before ++ .insert name operator.value :: after ∧
        operator.id = insertions before ∧ ∀ later ∈ after, ¬later.Writes name) ∧
    (∀ name value,
      (registry.step (.insert name value)).result = .operator (registry.find? name) ∧
      ∀ other, other ≠ name →
        (registry.step (.insert name value)).state.find? other = registry.find? other) ∧
    (∀ name, (registry.step (.erase name)).result = .operator (registry.find? name) ∧
      ∀ other, other ≠ name →
        (registry.step (.erase name)).state.find? other = registry.find? other) ∧
    (∀ name,
      registry.step (.find name) = .unchanged registry (.operator (registry.find? name)) ∧
      registry.step (.contains name) =
        .unchanged registry (.answer (registry.find? name).isSome)) ∧
    (registry.names.Pairwise fun a b => Utf8.encode a < Utf8.encode b) ∧
    (∀ name, name ∈ registry.names ↔ (registry.find? name).isSome = true) ∧
    registry.size = registry.names.length ∧ (registry.isEmpty = true ↔ registry.size = 0) := by
  intro registry
  refine ⟨find?_reached commands, ?_, ?_, fun _ => ⟨rfl, rfl⟩,
    (sorted_reached commands).names_pairwise, fun _ => mem_names_iff, ?_, beq_iff_eq⟩
  · exact fun _ _ => ⟨rfl, fun _ hne => find?_step_of_not_writes (Ne.symm hne)⟩
  · exact fun _ => ⟨rfl, fun _ hne => find?_step_of_not_writes (Ne.symm hne)⟩
  · exact (List.length_map _).symm

/-- A name that is a part of another one comes first, and one of two bytes comes last. -/
example :
    let operator : Operator :=
      { program := { id := 0, value := { ptx := "p", device := 0, variant := 0 } }
        aggregation := .row, reducer := .sum }
    let commands := ["é", "z", "", "zz", "z"].map fun name => Command.insert name operator
    (reached commands).names = ["", "z", "zz", "é"] := by
  decide +kernel

end Registry
end KernelJit
