/-
The registry of a context: its operators by name.

An operator is registered under the name of its kernel; a new one takes the place
of an earlier one with the same name.  The entries stand in the order of their
names' bytes, so that listing them is reading them off.  Each operator gets a
number of its own when it is registered.
-/
import KernelJit.Operator

namespace KernelJit

/-- The operators of a context by name. -/
structure Registry where
  /-- The names and their operators, in the order of the names. -/
  entries : List (String × Shared Operator) := []
  /-- How many operators have been registered; the number of the next one. -/
  registered : Nat := 0

namespace Registry

/-- Without any operator. -/
def empty : Registry := {}

/-- The operator with a name. -/
def find? (registry : Registry) (name : String) : Option (Shared Operator) :=
  (registry.entries.find? (·.1 == name)).map (·.2)

/-- Whether a name has an operator. -/
def contains (registry : Registry) (name : String) : Bool :=
  (registry.find? name).isSome

/-- Put an entry where its name belongs, in place of one with the same name. -/
def place (name : String) (operator : Shared Operator) :
    List (String × Shared Operator) → List (String × Shared Operator)
  | [] => [(name, operator)]
  | entry :: rest =>
    if entry.1 = name then (name, operator) :: rest
    else if Utf8.precedes name entry.1 then (name, operator) :: entry :: rest
    else entry :: place name operator rest

/-- Register an operator, and return the one that it replaces. -/
def insert (registry : Registry) (name : String) (operator : Operator) :
    Option (Shared Operator) × Registry :=
  (registry.find? name,
    { entries := place name { id := registry.registered, value := operator } registry.entries
      registered := registry.registered + 1 })

/-- Take an operator out, and return it. -/
def erase (registry : Registry) (name : String) : Option (Shared Operator) × Registry :=
  (registry.find? name,
    { registry with entries := registry.entries.filter (·.1 ≠ name) })

/-- Take all operators out. -/
def clear (registry : Registry) : Registry :=
  { registry with entries := [] }

/-- The names, in the order of their bytes. -/
def names (registry : Registry) : List String :=
  registry.entries.map (·.1)

/-- The number of operators. -/
def size (registry : Registry) : Nat :=
  registry.entries.length

/-- Whether there is no operator. -/
def isEmpty (registry : Registry) : Bool :=
  registry.size == 0

/-! ## What is found after a change -/

theorem find?_place_self (name : String) (operator : Shared Operator)
    (entries : List (String × Shared Operator)) :
    (place name operator entries).find? (·.1 == name) = some (name, operator) := by
  induction entries with
  | nil => simp [place]
  | cons entry rest ih =>
    rw [place]
    split
    · simp
    · next hne =>
      split
      · simp
      · simp [hne, ih]

theorem find?_place_of_ne {name other : String} (h : name ≠ other) (operator : Shared Operator)
    (entries : List (String × Shared Operator)) :
    (place name operator entries).find? (·.1 == other) = entries.find? (·.1 == other) := by
  induction entries with
  | nil => simp [place, h]
  | cons entry rest ih =>
    rw [place]
    split
    · next heq => simp [heq, h]
    · split
      · simp [h]
      · rw [List.find?_cons, List.find?_cons, ih]

/-- A registered operator is found, under its own number. -/
theorem find?_insert_self (registry : Registry) (name : String) (operator : Operator) :
    (registry.insert name operator).2.find? name =
      some { id := registry.registered, value := operator } := by
  simp [find?, insert, find?_place_self]

theorem find?_insert_of_ne (registry : Registry) {name other : String} (h : name ≠ other)
    (operator : Operator) :
    (registry.insert name operator).2.find? other = registry.find? other := by
  simp [find?, insert, find?_place_of_ne h]

theorem find?_erase_self (registry : Registry) (name : String) :
    (registry.erase name).2.find? name = none := by
  simp [find?, erase]

theorem find?_erase_of_ne (registry : Registry) {name other : String} (h : name ≠ other) :
    (registry.erase name).2.find? other = registry.find? other := by
  simp only [find?, erase, List.find?_filter]
  congr 2
  funext entry
  by_cases he : entry.1 = other
  · simp [he, Ne.symm h]
  · simp [he]

theorem find?_clear (registry : Registry) (name : String) : registry.clear.find? name = none := rfl

/-! ## Commands -/

/-- Something to do with a registry. -/
inductive Command where
  | insert (name : String) (operator : Operator)
  | find (name : String)
  | erase (name : String)
  | contains (name : String)
  | clear

/-- The answer to a command. -/
inductive Reply where
  /-- The operator that was replaced, found or taken out. -/
  | operator (operator : Option (Shared Operator))
  | answer (yes : Bool)
  | cleared

/-- Carry out a command. -/
def perform (registry : Registry) : Command → Reply × Registry
  | .insert name operator =>
    let (replaced, after) := registry.insert name operator
    (.operator replaced, after)
  | .find name => (.operator (registry.find? name), registry)
  | .erase name =>
    let (erased, after) := registry.erase name
    (.operator erased, after)
  | .contains name => (.answer (registry.contains name), registry)
  | .clear => (.cleared, registry.clear)

end Registry

end KernelJit
