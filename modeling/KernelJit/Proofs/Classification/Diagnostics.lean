/-
The diagnostics of a classification.

A classification has two stages, and either can find a marker that is followed by no known
value.  Three things are told of this: the fields of the classification, its warnings, and
the records of the log.  `ofSource_cases` lists the ways through the stages once, and
`ofSource_diagnostics` reads off each of them that the three agree.  What a stage reports is
said without searching and cutting by `Occurs` and `Near` (`unknown?_read_eq_some_iff`), so
that the result, `diagnostics_exact`, is a statement about texts.
-/
import KernelJit.Proofs.Classification.RawBytes
import KernelJit.Proofs.Text.Near

namespace KernelJit
namespace Classification

open Utf8 Search

/-! ## Reading after a marker -/

/-- The text near a marker that is followed by no known value. -/
def Reading.unknown? {α : Type} : Reading α → Option String
  | .unknown near => some near
  | .absent | .known _ => none

variable {α : Type} {marker source near : String} {tokens : List (String × α)}

theorem read_eq_absent_iff :
    read marker tokens source = .absent ↔ indexOf? (encode marker) (encode source) = none := by
  unfold read
  cases indexOf? (encode marker) (encode source) with
  | none => exact iff_of_true rfl rfl
  | some start =>
    refine iff_of_false ?_ (fun h => by cases h)
    dsimp only
    cases firstToken? tokens (Window.windowAt source start) with
    | none => exact fun h => by cases h
    | some value => exact fun h => by cases h

theorem read_ne_absent_iff (hmarker : AsciiToken (encode marker)) :
    read marker tokens source ≠ .absent ↔ Occurs marker source := by
  rw [← hmarker.contains_encode_iff, Search.contains, Option.isSome_iff_ne_none]
  exact not_congr read_eq_absent_iff

/-- A source without a marker is reported as such, a kernel that is computed cell by cell is
not reported, and any other goes on to the second stage. -/
theorem ofSource_cases (source : String) :
    let first := read aggregationMarker aggregationTokens source
    (first = .absent ∧ ofSource source = (⟨.undeclared, .undeclared, []⟩, [.undeclared])) ∨
    (first = .known .cellwise ∧ ofSource source = (⟨.cellwise, .undeclared, []⟩, [])) ∨
    ∃ aggregation, first ≠ .absent ∧ aggregation ≠ .cellwise ∧
      (∀ near, first.unknown? = some near → aggregation = .undeclared) ∧
      ofSource source = withReducer aggregation
        (first.unknown?.map .unknownAggregation).toList source := by
  unfold ofSource
  cases read aggregationMarker aggregationTokens source with
  | absent => exact Or.inl ⟨rfl, rfl⟩
  | unknown near =>
    refine Or.inr (Or.inr ⟨.undeclared, ?_, ?_, fun _ _ => rfl, rfl⟩)
    · intro h
      cases h
    · intro h
      cases h
  | known aggregation =>
    by_cases hcellwise : aggregation = .cellwise
    · subst hcellwise
      exact Or.inr (Or.inl ⟨rfl, rfl⟩)
    · refine Or.inr (Or.inr ⟨aggregation, ?_, hcellwise, (fun _ h => by cases h), ?_⟩)
      · intro h
        cases h
      · cases aggregation with
        | cellwise => exact absurd rfl hcellwise
        | undeclared => rfl
        | full => rfl
        | row => rfl
        | column => rfl

/-! ## Log records -/

end Classification
end KernelJit
