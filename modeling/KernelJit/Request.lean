/-
What the compiler backend is asked for.
-/
namespace KernelJit

/-- A request to compile one kernel source for one device. -/
structure Request where
  /-- The kernel's name, for diagnostics. -/
  name : String
  source : String
  /-- The kernel variant to build. -/
  variant : UInt32
  /-- The include flags, in the order in which headers are looked up. -/
  includeFlags : List String
  device : UInt32
deriving DecidableEq

end KernelJit
