/-
How a kernel reduces its output.

A kernel declares in its source text whether and how its cells are aggregated,
and with which reducer.  The names here are the ones that generated source uses;
the labels are the ones that log records use.  A kernel that declares nothing, or
something that is not recognised, has the value `undeclared`, whose output shape
is not known.
-/
namespace KernelJit

/-- The aggregation that a kernel applies to its cells. -/
inductive Aggregation where
  /-- Nothing declared, or nothing recognised. -/
  | undeclared
  /-- Each cell of the output is computed from one cell of the input. -/
  | cellwise
  | full
  | row
  | column
deriving DecidableEq

/-- The operator with which cells are combined; meaningful only when the
aggregation is not `cellwise`. -/
inductive Reducer where
  /-- Nothing declared, or nothing recognised. -/
  | undeclared
  | sum
  | sumOfSquares
  | min
  | max
deriving DecidableEq

/-- The shape of a kernel's output, relative to its main input. -/
inductive OutputShape where
  /-- The shape of the main input. -/
  | input
  /-- One value for each row. -/
  | rows
  /-- One value for each column. -/
  | columns
  /-- A single value. -/
  | scalar
  | unknown
deriving DecidableEq

namespace Aggregation

/-- The name in generated source. -/
def name : Aggregation → String
  | .undeclared => "NONE"
  | .cellwise => "NO_AGG"
  | .full => "FULL_AGG"
  | .row => "ROW_AGG"
  | .column => "COL_AGG"

/-- The label in log records. -/
def label : Aggregation → String
  | .undeclared => "None"
  | .cellwise => "NoAgg"
  | .full => "FullAgg"
  | .row => "RowAgg"
  | .column => "ColAgg"

/-- The output shape of a kernel with this aggregation. -/
def outputShape : Aggregation → OutputShape
  | .undeclared => .unknown
  | .cellwise => .input
  | .full => .scalar
  | .row => .rows
  | .column => .columns

/-- Whether the kernel combines cells at all. -/
def isAggregate : Aggregation → Bool
  | .full | .row | .column => true
  | .undeclared | .cellwise => false

end Aggregation

namespace Reducer

/-- The name in generated source. -/
def name : Reducer → String
  | .undeclared => "NONE"
  | .sum => "SUM"
  | .sumOfSquares => "SUM_SQ"
  | .min => "MIN"
  | .max => "MAX"

/-- The label in log records. -/
def label : Reducer → String
  | .undeclared => "None"
  | .sum => "Sum"
  | .sumOfSquares => "SumSq"
  | .min => "Min"
  | .max => "Max"

end Reducer

end KernelJit
