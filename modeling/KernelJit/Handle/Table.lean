/-
The table in which handles are looked up.

Objects stand in numbered slots.  A slot has a generation, which goes up by one
each time its object is taken out, and the handle of an object names both: so a
handle whose object is gone does not name the object that has its slot now.  A
slot that was vacated is used again before a new one is opened, the one vacated
last first.

Generations are 32-bit numbers and start again at zero after the last one.
-/
import KernelJit.Failure
import KernelJit.Handle.Basic

namespace KernelJit

/-- A place for an object. -/
structure Slot (α : Type) where
  generation : UInt32
  occupant : Option α

/-- The objects that are held by handles. -/
structure HandleTable (α : Type) where
  slots : List (Slot α) := []
  /-- The indices of the slots without an object, the one vacated last first. -/
  vacant : List UInt32 := []
  /-- The number of objects. -/
  live : Nat := 0

namespace HandleTable

variable {α : Type}

/-- Without any object, and without any slot. -/
def empty : HandleTable α := {}

/-- The generation of a slot; that of a slot not yet opened is zero. -/
def generation (table : HandleTable α) (index : UInt32) : UInt32 :=
  match table.slots[index.toNat]? with
  | some slot => slot.generation
  | none => 0

/-- Put an object into the table, and return its handle. -/
def insert (table : HandleTable α) (object : α) : Handle × HandleTable α :=
  match table.vacant with
  | index :: vacant =>
    let generation := table.generation index
    (Handle.pack index generation,
      { slots := table.slots.set index.toNat { generation, occupant := some object }
        vacant
        live := table.live + 1 })
  | [] =>
    (Handle.pack (UInt32.ofNat table.slots.length) 0,
      { slots := table.slots ++ [{ generation := 0, occupant := some object }]
        vacant := []
        live := table.live + 1 })

/-- The object in a slot, if the slot is in this generation. -/
def occupant? (table : HandleTable α) (index : Nat) (generation : UInt32) : Option α :=
  match table.slots[index]? with
  | some slot => if slot.generation = generation then slot.occupant else none
  | none => none

/-- The object that a handle names. -/
def get (table : HandleTable α) (handle : Handle) : Except Failure α :=
  match handle.parts? with
  | none => .error .nullHandle
  | some (index, generation) =>
    match table.occupant? index generation with
    | some object => .ok object
    | none => .error .invalidHandle

/-- Take out the object that a handle names, and return it. -/
def remove (table : HandleTable α) (handle : Handle) : Except Failure (α × HandleTable α) :=
  match handle.parts? with
  | none => .error .nullHandle
  | some (index, generation) =>
    match table.occupant? index generation with
    | some object =>
      .ok (object,
        { slots := table.slots.set index { generation := generation + 1, occupant := none }
          vacant := UInt32.ofNat index :: table.vacant
          live := table.live - 1 })
    | none => .error .invalidHandle

/-- Put another object where the one that a handle names is.  A handle that names
nothing changes nothing. -/
def replace (table : HandleTable α) (handle : Handle) (object : α) : HandleTable α :=
  match handle.parts? with
  | none => table
  | some (index, generation) =>
    match table.occupant? index generation with
    | some _ =>
      { table with slots := table.slots.set index { generation, occupant := some object } }
    | none => table

/-- Whether a handle names an object. -/
def contains (table : HandleTable α) (handle : Handle) : Bool :=
  match table.get handle with
  | .ok _ => true
  | .error _ => false

/-- The number of objects. -/
def size (table : HandleTable α) : Nat :=
  table.live

/-- Whether there is no object. -/
def isEmpty (table : HandleTable α) : Bool :=
  table.size == 0

/-! ## Commands -/

/-- Something to do with a table. -/
inductive Command (α : Type) where
  | insert (object : α)
  | get (handle : Handle)
  | remove (handle : Handle)
  | contains (handle : Handle)

/-- The answer to a command. -/
inductive Reply (α : Type) where
  | issued (handle : Handle)
  /-- The object that was found or taken out. -/
  | object (object : Except Failure α)
  | answer (yes : Bool)

/-- Carry out a command. -/
def perform (table : HandleTable α) : Command α → Reply α × HandleTable α
  | .insert object =>
    let (handle, after) := table.insert object
    (.issued handle, after)
  | .get handle => (.object (table.get handle), table)
  | .remove handle =>
    match table.remove handle with
    | .ok (object, after) => (.object (.ok object), after)
    | .error failure => (.object (.error failure), table)
  | .contains handle => (.answer (table.contains handle), table)

end HandleTable

end KernelJit
