/-
What is known about a kernel from its source text alone.
-/
import KernelJit.Aggregation

namespace KernelJit

namespace Classification

/-- A marker that was found with no known value after it, with the text near it. -/
inductive Warning where
  | unknownAggregation (near : String)
  | unknownReducer (near : String)
deriving DecidableEq

/-- The text near the marker that a warning is about. -/
def Warning.near : Warning → String
  | .unknownAggregation near => near
  | .unknownReducer near => near

end Classification

/-- The aggregation of a kernel, with what was not understood on the way. -/
structure Classification where
  aggregation : Aggregation
  reducer : Reducer
  warnings : List Classification.Warning
deriving DecidableEq

end KernelJit
