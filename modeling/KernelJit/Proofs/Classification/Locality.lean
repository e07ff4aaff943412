/-
The classification of a source is settled by the text near its markers.

Each of the two stages reads one text, the one near the first occurrence of its marker
(`read_of_near`).  So two sources with the same texts near the markers are classified alike, with
the same warnings and the same events, and the second text does not matter for a kernel that
is computed cell by cell (`ofSource_congr`).  What stands elsewhere in a source is not seen:
neither what follows the thirty bytes from a marker on, nor what precedes the markers.
-/
import KernelJit.Proofs.Classification.Diagnostics
import KernelJit.Proofs.Context.Call
import KernelJit.Proofs.Text.Locality

namespace KernelJit
namespace Classification

open Utf8 Search

/-! ## One stage -/

/-- What is read from the text near a marker. -/
def readNear {α : Type} (tokens : List (String × α)) (near : String) : Reading α :=
  match firstToken? tokens near with
  | some value => .known value
  | none => .unknown near

variable {α : Type} {marker source other before near : String} {tokens : List (String × α)}

theorem read_of_near (hmarker : AsciiToken (encode marker)) (hsize : marker.utf8ByteSize ≤ 30)
    (h : Near marker source before near) : read marker tokens source = readNear tokens near := by
  obtain ⟨start, hstart, rfl⟩ := (near_iff_windowAt hmarker hsize).mp ⟨before, h⟩
  rw [read, hstart]
  rfl

theorem read_of_not_occurs (hmarker : AsciiToken (encode marker)) (h : ¬Occurs marker source) :
    read marker tokens source = .absent :=
  Classical.not_not.mp fun hread => h ((read_ne_absent_iff hmarker).mp hread)

theorem read_congr (hmarker : AsciiToken (encode marker)) (hsize : marker.utf8ByteSize ≤ 30)
    (h : SameNear marker source other) : read marker tokens other = read marker tokens source := by
  by_cases hoccurs : Occurs marker source
  · obtain ⟨before, near, hnear⟩ := exists_near hmarker hsize hoccurs
    obtain ⟨before', hnear'⟩ := (h near).mp ⟨before, hnear⟩
    rw [read_of_near hmarker hsize hnear, read_of_near hmarker hsize hnear']
  · have hoccurs' : ¬Occurs marker other := by
      intro hother
      obtain ⟨before, near, hnear⟩ := exists_near hmarker hsize hother
      obtain ⟨_, hnear'⟩ := (h near).mpr ⟨before, hnear⟩
      exact hoccurs hnear'.occurs
    rw [read_of_not_occurs hmarker hoccurs, read_of_not_occurs hmarker hoccurs']

/-! ## Both stages -/

theorem ofSource_eq_of_read
    (hfirst : read aggregationMarker aggregationTokens other =
      read aggregationMarker aggregationTokens source)
    (hsecond : (ofSource source).1.aggregation = .cellwise ∨
      read reducerMarker reducerTokens other = read reducerMarker reducerTokens source) :
    ofSource other = ofSource source := by
  by_cases hcellwise : read aggregationMarker aggregationTokens source = .known .cellwise
  · rw [ofSource, ofSource, hfirst, hcellwise]
  · have hread : read reducerMarker reducerTokens other =
        read reducerMarker reducerTokens source := by
      refine hsecond.resolve_left fun haggregation => ?_
      rcases ofSource_cases source with ⟨_, hsource⟩ | ⟨hknown, _⟩ | ⟨_, _, hne, _, hsource⟩
      · rw [hsource] at haggregation
        cases haggregation
      · exact hcellwise hknown
      · rw [hsource, (withReducer_eq _ _ source).1] at haggregation
        exact hne haggregation
    have hreducer : ∀ aggregation warnings,
        withReducer aggregation warnings other = withReducer aggregation warnings source := by
      intro aggregation warnings
      rw [withReducer, withReducer, hread]
    simp only [ofSource, hfirst, hreducer]

theorem ofSource_congr (hfirst : SameNear aggregationMarker source other)
    (hsecond : (ofSource source).1.aggregation = .cellwise ∨
      SameNear reducerMarker source other) : ofSource other = ofSource source := by
  refine ofSource_eq_of_read (read_congr asciiToken_aggregation.1 (by decide) hfirst) ?_
  exact hsecond.imp_right (read_congr asciiToken_reducer.1 (by decide))

theorem ofSource_append (hfirst : Whole aggregationMarker source)
    (hsecond : (ofSource source).1.aggregation = .cellwise ∨ Whole reducerMarker source)
    (behind : String) : ofSource (source ++ behind) = ofSource source := by
  refine ofSource_congr (sameNear_append asciiToken_aggregation.1 (by decide) hfirst behind) ?_
  exact hsecond.imp_right fun h => sameNear_append asciiToken_reducer.1 (by decide) h behind

theorem ofSource_prepend {ahead : String} (hfirst : StartsPast aggregationMarker ahead source)
    (hsecond : StartsPast reducerMarker ahead source) :
    ofSource (ahead ++ source) = ofSource source :=
  ofSource_congr (sameNear_prepend asciiToken_aggregation.1 (by decide) hfirst)
    (Or.inr (sameNear_prepend asciiToken_reducer.1 (by decide) hsecond))

/-- The classification of a source is local to the windows of its markers.  Sources that have the
same text near `CellType` and, unless they are computed cell by cell, near `AggOp` are classified
alike, warnings and events included, and every operator compiled from the one has the
aggregation and the reducer of the other.  In particular nothing is changed by text behind a
source that has thirty bytes from its markers on, nor by text ahead of a source in which no
marker begins. -/
theorem classified_by_windows :
    (∀ source other, SameNear "CellType" source other →
      (ofSource source).1.aggregation = .cellwise ∨ SameNear "AggOp" source other →
        ofSource other = ofSource source ∧
        ∀ (context : Context) (call : Call) operator, call.source = other →
          (context.call call).result = .done operator →
            operator.value.aggregation = (ofSource source).1.aggregation ∧
            operator.value.reducer = (ofSource source).1.reducer) ∧
    (∀ source behind, Whole "CellType" source →
      (ofSource source).1.aggregation = .cellwise ∨ Whole "AggOp" source →
        ofSource (source ++ behind) = ofSource source) ∧
    ∀ ahead source, StartsPast "CellType" ahead source → StartsPast "AggOp" ahead source →
      ofSource (ahead ++ source) = ofSource source := by
  refine ⟨?_, ?_, ?_⟩
  · intro source other hfirst hsecond
    have hsame := ofSource_congr hfirst hsecond
    refine ⟨hsame, ?_⟩
    rintro context call operator rfl hdone
    rw [Context.operator_of_done hdone, ← hsame]
    exact ⟨rfl, rfl⟩
  · exact fun _ behind hfirst hsecond => ofSource_append hfirst hsecond behind
  · exact fun _ _ hfirst hsecond => ofSource_prepend hfirst hsecond

/-- Both windows end inside a character, and other values stand all around them. -/
theorem classified_by_windows_straddled :
    let source := "CellType.ROW_AGG             é AggOp.MAX                    é"
    let longer := source ++ "CellType.NO_AGG AggOp.MIN"
    let longest := "é AggO Cell " ++ longer
    let backend : Backend :=
      { name := "b", answer := fun _ _ => .done { ptx := "p", device := 0, variant := 0 } }
    let context := Context.create 0 {} backend .oldest
    (Whole "CellType" source ∧ Whole "AggOp" source ∧ ofSource longer = ofSource source) ∧
    (StartsPast "CellType" "é AggO Cell " longer ∧ StartsPast "AggOp" "é AggO Cell " longer ∧
      ofSource longest = ofSource longer) ∧
    SameNear "CellType" source longest ∧ SameNear "AggOp" source longest ∧
    (ofSource source).1 = ⟨.row, .max, []⟩ ∧
    ∃ operator, (context.call ⟨fun _ => some "/", longest, "k"⟩).result = .done operator ∧
      operator.value.aggregation = .row ∧ operator.value.reducer = .max := by
  intro source longer longest backend context
  have hascii : AsciiToken (encode "CellType") ∧ AsciiToken (encode "AggOp") := by decide +kernel
  have hfirst : Whole "CellType" source :=
    (whole_iff hascii.1).mpr ⟨0, by decide +kernel, by decide +kernel⟩
  have hsecond : Whole "AggOp" source :=
    (whole_iff hascii.2).mpr ⟨32, by decide +kernel, by decide +kernel⟩
  have hpast : StartsPast "CellType" "é AggO Cell " longer :=
    (startsPast_iff hascii.1).mpr (by decide +kernel)
  have hpast' : StartsPast "AggOp" "é AggO Cell " longer :=
    (startsPast_iff hascii.2).mpr (by decide +kernel)
  have hsame : SameNear "CellType" source longest := fun near =>
    (sameNear_append hascii.1 (by decide) hfirst _ near).trans
      (sameNear_prepend hascii.1 (by decide) hpast near)
  have hsame' : SameNear "AggOp" source longest := fun near =>
    (sameNear_append hascii.2 (by decide) hsecond _ near).trans
      (sameNear_prepend hascii.2 (by decide) hpast' near)
  have hsource : (ofSource source).1 = ⟨.row, .max, []⟩ := by decide +kernel
  obtain ⟨hwindows, happend, hprepend⟩ := classified_by_windows
  obtain ⟨operator, hdone⟩ : ∃ operator,
      (context.call ⟨fun _ => some "/", longest, "k"⟩).result = .done operator := ⟨_, rfl⟩
  have hoperator := (hwindows source longest hsame (Or.inr hsame')).2 context _ operator rfl hdone
  rw [hsource] at hoperator
  exact ⟨⟨hfirst, hsecond, happend source _ hfirst (Or.inr hsecond)⟩,
    ⟨hpast, hpast', hprepend _ longer hpast hpast'⟩, hsame, hsame', hsource, operator, hdone,
    hoperator⟩

end Classification
end KernelJit
