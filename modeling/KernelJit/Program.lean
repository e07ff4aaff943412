/-
Compiled programs, and objects with an identity.

Programs and operators are shared: the same one can be held by a cache, by several
operators and by callers, and it can be seen whether two holders have the same
one or two that look alike.  A shared object is therefore a value with the number
it was given when it was made, and whoever makes objects never gives a number
twice.
-/
import KernelJit.Fingerprint
import KernelJit.Size

namespace KernelJit

/-- A value together with the number that it was given when it was made. -/
structure Shared (α : Type) where
  id : Nat
  value : α
deriving DecidableEq

/-- A compiled kernel, tagged with the device and the variant it was built for. -/
structure Program where
  /-- The assembly text. -/
  ptx : String
  device : UInt32
  variant : UInt32
  /-- The fingerprint of its request, once the program has been through a cache. -/
  fingerprint : Option Fingerprint := none
deriving DecidableEq

namespace Program

/-- The size for which a program counts in a cache: the bytes of its text. -/
def size (program : Program) : Size :=
  UInt64.ofNat program.ptx.utf8ByteSize

/-- The same program under a fingerprint. -/
def tag (program : Program) (fingerprint : Fingerprint) : Program :=
  { program with fingerprint := some fingerprint }

end Program

end KernelJit
