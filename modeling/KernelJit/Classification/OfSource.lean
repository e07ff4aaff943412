/-
The aggregation that a kernel source declares.

A source is not parsed.  The first occurrence of a marker is looked for, and the
window that starts there for one of the values that may follow the marker.  The
marker's own bytes are part of the window, and so is every byte of a character
that takes more than one, which leaves less room for the value.  A window may show
several values; the order of the table decides among them.  Since `AggOp.SUM` is
contained in `AggOp.SUM_SQ` and stands before it, a sum of squares is read as a
sum.

A kernel that is computed cell by cell has no reducer, so its second marker is not
looked at.  A kernel whose aggregation is not recognised is still read for its
reducer.
-/
import KernelJit.Classification.Basic
import KernelJit.Event
import KernelJit.Text.Search
import KernelJit.Text.Window

namespace KernelJit
namespace Classification

/-- The marker before the aggregation. -/
def aggregationMarker : String := "CellType"

/-- The marker before the reducer. -/
def reducerMarker : String := "AggOp"

/-- The aggregations that a source may name, in order of precedence. -/
def aggregationTokens : List (String × Aggregation) :=
  [("FULL_AGG", .full), ("ROW_AGG", .row), ("COL_AGG", .column), ("NO_AGG", .cellwise)]

/-- The reducers that a source may name, in order of precedence. -/
def reducerTokens : List (String × Reducer) :=
  [("AggOp.SUM", .sum), ("AggOp.SUM_SQ", .sumOfSquares), ("AggOp.MIN", .min),
    ("AggOp.MAX", .max)]

/-- What is found at the first occurrence of a marker. -/
inductive Reading (α : Type) where
  /-- The marker does not occur. -/
  | absent
  /-- None of the values occurs near the marker. -/
  | unknown (near : String)
  | known (value : α)
deriving DecidableEq

/-- The value of the first token in the table that occurs in a window. -/
def firstToken? {α : Type} (tokens : List (String × α)) (near : String) : Option α :=
  (tokens.find? fun token => Search.contains (Utf8.encode near) (Utf8.encode token.1)).map (·.2)

/-- Read what follows the first occurrence of a marker. -/
def read {α : Type} (marker : String) (tokens : List (String × α)) (source : String) :
    Reading α :=
  match Search.indexOf? (Utf8.encode marker) (Utf8.encode source) with
  | none => .absent
  | some start =>
    let near := Window.windowAt source start
    match firstToken? tokens near with
    | some value => .known value
    | none => .unknown near

/-- A classification with the events that report it. -/
def report (c : Classification) : Classification × List Event :=
  (c, c.warnings.map .warned ++ [.classified c.aggregation c.reducer])

/-- Read the reducer of a source whose aggregation has been read. -/
def withReducer (aggregation : Aggregation) (warnings : List Warning) (source : String) :
    Classification × List Event :=
  match read reducerMarker reducerTokens source with
  | .absent => report ⟨aggregation, .undeclared, warnings⟩
  | .known reducer => report ⟨aggregation, reducer, warnings⟩
  | .unknown near => report ⟨aggregation, .undeclared, warnings ++ [.unknownReducer near]⟩

/-- Classify a source.  This never fails: what is not recognised is left undeclared
and gives a warning. -/
def ofSource (source : String) : Classification × List Event :=
  match read aggregationMarker aggregationTokens source with
  | .absent => (⟨.undeclared, .undeclared, []⟩, [.undeclared])
  | .known .cellwise => (⟨.cellwise, .undeclared, []⟩, [])
  | .known aggregation => withReducer aggregation [] source
  | .unknown near => withReducer .undeclared [.unknownAggregation near] source

end Classification
end KernelJit
