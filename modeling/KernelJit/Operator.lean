/-
Operators: compiled kernels ready for use.

An operator is a compiled program together with the aggregation that its source
declared.  Operators whose kernels have the same source share one program.
-/
import KernelJit.Aggregation
import KernelJit.Program

namespace KernelJit

/-- A compiled kernel with its aggregation. -/
structure Operator where
  program : Shared Program
  aggregation : Aggregation
  reducer : Reducer
deriving DecidableEq

end KernelJit
