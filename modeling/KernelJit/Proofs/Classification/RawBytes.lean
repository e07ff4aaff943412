/-
The aggregation of a source, read off its bytes.

`ofBytes` says what a source declares without windows, cutting and searching: a value is
declared after a marker if its token stands, whole, within thirty bytes from the first
occurrence of the marker on, and of several the first in the table counts.  A source is
classified just so (`ofSource_eq_ofBytes`).  What has to be seen is that a window, which
ends between two characters, shows every token that the thirty bytes hold.
-/
import KernelJit.Classification.OfSource
import KernelJit.Proofs.Text.Window

namespace KernelJit
namespace Classification

open Utf8 Search

/-! ## Declarations in a byte list -/

/-- The first position at which a text stands in a byte list. -/
def position? (marker : String) (bytes : List UInt8) : Option Nat :=
  (List.range (bytes.length + 1)).find? fun i => OccursAt (encode marker) bytes i

/-- A text stands in a byte list, whole, between two positions. -/
def Between (token : String) (bytes : List UInt8) (start stop : Nat) : Prop :=
  ∃ i, start ≤ i ∧ i + (encode token).length ≤ stop ∧ OccursAt (encode token) bytes i

theorem between_iff_lt {token : String} {bytes : List UInt8} {start stop : Nat} :
    (∃ i, i < stop + 1 ∧ start ≤ i ∧ i + (encode token).length ≤ stop ∧
      OccursAt (encode token) bytes i) ↔ Between token bytes start stop := by
  constructor
  · rintro ⟨i, _, h⟩
    exact ⟨i, h⟩
  · rintro ⟨i, hi, hend, h⟩
    exact ⟨i, by omega, hi, hend, h⟩

instance (token : String) (bytes : List UInt8) (start stop : Nat) :
    Decidable (Between token bytes start stop) :=
  decidable_of_iff _ between_iff_lt

/-- The value of the first token in the table that stands within thirty bytes from a
position on. -/
def valueNear? {α : Type} (tokens : List (String × α)) (bytes : List UInt8) (start : Nat) :
    Option α :=
  (tokens.find? fun token => Between token.1 bytes start (min (start + 30) bytes.length)).map (·.2)

/-- The value that is declared after the first occurrence of a marker. -/
def declared? {α : Type} (marker : String) (tokens : List (String × α)) (bytes : List UInt8) :
    Option α :=
  (position? marker bytes).bind (valueNear? tokens bytes)

/-- What the bytes of a source declare.  A reducer is declared only by a source that has a
marker for the aggregation, and does not declare that each cell is for itself. -/
def ofBytes (bytes : List UInt8) : Aggregation × Reducer :=
  match position? "CellType" bytes with
  | none => (.undeclared, .undeclared)
  | some _ =>
    let aggregation := (declared? "CellType"
      [("FULL_AGG", .full), ("ROW_AGG", .row), ("COL_AGG", .column), ("NO_AGG", .cellwise)]
      bytes).getD .undeclared
    let reducer := (declared? "AggOp"
      [("AggOp.SUM", .sum), ("AggOp.SUM_SQ", .sumOfSquares), ("AggOp.MIN", .min),
        ("AggOp.MAX", .max)] bytes).getD .undeclared
    (aggregation, if aggregation = .cellwise then .undeclared else reducer)

/-! ## Reading after a marker -/

theorem position?_eq_indexOf? (marker : String) (bytes : List UInt8) :
    position? marker bytes = indexOf? (encode marker) bytes := by
  apply Option.ext
  intro i
  rw [indexOf?_eq_some_iff, position?, List.find?_range_eq_some, List.mem_range,
    decide_eq_true_iff]
  constructor
  · rintro ⟨hoccurs, _, hfirst⟩
    exact ⟨hoccurs, fun j hj => by simpa using hfirst j hj⟩
  · rintro ⟨hoccurs, hfirst⟩
    exact ⟨hoccurs, Nat.lt_succ_of_le hoccurs.1, fun j hj => by simpa using hfirst j hj⟩

theorem contains_windowAt_iff_between {source token : String} {start : Nat}
    (htoken : AsciiToken (encode token)) (hstart : isBoundary (encode source) start = true) :
    Search.contains (encode (Window.windowAt source start)) (encode token) = true ↔
      Between token (encode source) start (min (start + 30) (encode source).length) :=
  htoken.contains_windowAt_iff hstart

variable {α : Type} {marker source : String} {tokens : List (String × α)}

theorem firstToken?_windowAt {start : Nat} (htokens : ∀ token ∈ tokens, AsciiToken (encode token.1))
    (hstart : isBoundary (encode source) start = true) :
    firstToken? tokens (Window.windowAt source start) =
      valueNear? tokens (encode source) start := by
  unfold firstToken? valueNear?
  congr 1
  induction tokens with
  | nil => rfl
  | cons token rest ih =>
    have hseen := contains_windowAt_iff_between (htokens token List.mem_cons_self) hstart
    have hrest := ih fun other hmem => htokens other (List.mem_cons_of_mem _ hmem)
    have hsame := Bool.eq_iff_iff.mpr (hseen.trans decide_eq_true_iff.symm)
    rw [List.find?_cons, List.find?_cons, hrest, hsame]

/-- What is read after a marker if the bytes decide. -/
def readBytes (marker : String) (tokens : List (String × α)) (source : String) : Reading α :=
  match position? marker (encode source) with
  | none => .absent
  | some start =>
    match valueNear? tokens (encode source) start with
    | some value => .known value
    | none => .unknown (Window.windowAt source start)

theorem read_eq_readBytes (hmarker : AsciiToken (encode marker))
    (htokens : ∀ token ∈ tokens, AsciiToken (encode token.1)) :
    read marker tokens source = readBytes marker tokens source := by
  unfold read readBytes
  rw [position?_eq_indexOf?]
  cases hposition : indexOf? (encode marker) (encode source) with
  | none => rfl
  | some start =>
    have hoccurs := (indexOf?_eq_some_iff.mp hposition).1
    have hstart := (hmarker.isBoundary_of_occursAt hoccurs).1
    dsimp only
    rewrite [firstToken?_windowAt htokens hstart]
    cases valueNear? tokens (encode source) start with
    | none => rfl
    | some value => rfl

theorem asciiToken_aggregation :
    AsciiToken (encode aggregationMarker) ∧
      ∀ token ∈ aggregationTokens, AsciiToken (encode token.1) := by
  decide +kernel

theorem asciiToken_reducer :
    AsciiToken (encode reducerMarker) ∧ ∀ token ∈ reducerTokens, AsciiToken (encode token.1) := by
  decide +kernel

/-! ## Classification -/

/-- Whatever has been read before, the reducer is the one that the bytes declare. -/
theorem withReducer_eq (aggregation : Aggregation) (warnings : List Warning) (source : String) :
    (withReducer aggregation warnings source).1.aggregation = aggregation ∧
      (withReducer aggregation warnings source).1.reducer =
        (declared? "AggOp" reducerTokens (encode source)).getD .undeclared := by
  unfold withReducer declared?
  rw [read_eq_readBytes asciiToken_reducer.1 asciiToken_reducer.2, readBytes, reducerMarker]
  cases position? "AggOp" (encode source) with
  | none => exact ⟨rfl, rfl⟩
  | some start =>
    dsimp only [Option.bind_some]
    cases valueNear? reducerTokens (encode source) start with
    | none => exact ⟨rfl, rfl⟩
    | some reducer => exact ⟨rfl, rfl⟩

theorem ofSource_pair_eq (source : String) :
    ((ofSource source).1.aggregation, (ofSource source).1.reducer) = ofBytes (encode source) := by
  unfold ofSource ofBytes declared?
  rw [read_eq_readBytes asciiToken_aggregation.1 asciiToken_aggregation.2, readBytes,
    aggregationMarker]
  cases hposition : position? "CellType" (encode source) with
  | none => rfl
  | some start =>
    dsimp only [Option.bind_some]
    show _ = (((valueNear? aggregationTokens (encode source) start).getD .undeclared),
      if (valueNear? aggregationTokens (encode source) start).getD .undeclared = .cellwise
      then _ else _)
    cases valueNear? aggregationTokens (encode source) start with
    | none =>
      obtain ⟨haggregation, hreducer⟩ :=
        withReducer_eq .undeclared [.unknownAggregation (Window.windowAt source start)] source
      exact Prod.ext haggregation hreducer
    | some aggregation =>
      obtain ⟨haggregation, hreducer⟩ := withReducer_eq aggregation [] source
      cases aggregation with
      | cellwise => rfl
      | undeclared => exact Prod.ext haggregation hreducer
      | full => exact Prod.ext haggregation hreducer
      | row => exact Prod.ext haggregation hreducer
      | column => exact Prod.ext haggregation hreducer

/-- Every source is classified as its bytes declare.  In particular no window hides a token:
whatever characters stand at its end, it shows each ASCII token that stands within the
thirty bytes from its start on. -/
theorem ofSource_eq_ofBytes (source : String) :
    ((ofSource source).1.aggregation, (ofSource source).1.reducer) = ofBytes (encode source) ∧
      ∀ start token, isBoundary (encode source) start = true → AsciiToken (encode token) →
        (Search.contains (encode (Window.windowAt source start)) (encode token) = true ↔
          Between token (encode source) start (min (start + 30) (encode source).length)) :=
  ⟨ofSource_pair_eq source, fun _ _ hstart htoken => contains_windowAt_iff_between htoken hstart⟩

/-- The token ends one byte before the window would, and a character of two bytes follows. -/
theorem ofSource_eq_ofBytes_straddled :
    let source := "CellType              ROW_AGGé AggOp.MIN"
    (isBoundary (encode source) 0 = true ∧ AsciiToken (encode "ROW_AGG")) ∧
      Search.contains (encode (Window.windowAt source 0)) (encode "ROW_AGG") = true ∧
        ((ofSource source).1.aggregation, (ofSource source).1.reducer) = (.row, .min) := by
  intro source
  have hstart : isBoundary (encode source) 0 = true := isBoundary_zero _
  have htoken : AsciiToken (encode "ROW_AGG") := by decide +kernel
  refine ⟨⟨hstart, htoken⟩, ?_, ?_⟩
  · exact ((ofSource_eq_ofBytes source).2 0 "ROW_AGG" hstart htoken).mpr (by decide +kernel)
  · rw [(ofSource_eq_ofBytes source).1]
    decide +kernel

end Classification
end KernelJit
