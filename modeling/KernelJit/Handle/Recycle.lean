/-
Objects that pass through a table, one after the other.

An object that is taken out before the next one is put in leaves its slot to it, and all
that tells of it is the generation of the slot.  So of many objects that pass through a
table only the first and the last have to be put in: `recycle` counts the others on the
generation.
-/
import KernelJit.Handle.Table

namespace KernelJit
namespace HandleTable

variable {α : Type}

/-- Put an object into the table and take it out again, and return the handle that it had. -/
def pass (table : HandleTable α) (object : α) : Handle × HandleTable α :=
  let issued := table.insert object
  match issued.2.remove issued.1 with
  | .ok (_, emptied) => (issued.1, emptied)
  | .error _ => issued

/-- Pass a number of objects through the table, and return the last handle. -/
def passes (table : HandleTable α) (object : α) : Nat → Handle × HandleTable α
  | 0 => (Handle.null, table)
  | n + 1 => (table.passes object n).2.pass object

/-- The table with the slot that is used next some generations older. -/
def worn (table : HandleTable α) (n : Nat) : HandleTable α :=
  match table.vacant with
  | [] => table
  | index :: _ =>
    { table with
      slots := table.slots.set index.toNat
        { generation := table.generation index + UInt32.ofNat n, occupant := none } }

/-- What passing a number of objects through the table comes to. -/
def recycle (table : HandleTable α) (object : α) : Nat → Handle × HandleTable α
  | 0 => (Handle.null, table)
  | 1 => table.pass object
  | n + 2 => ((table.pass object).2.worn n).pass object

end HandleTable
end KernelJit
