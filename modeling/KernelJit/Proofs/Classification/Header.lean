/-
The head of a generated source is read back.

A generated source declares its aggregation and its reducer in two lines, before the kernel
itself.  The windows of both markers reach past the declared values, the first into the second
line and the second into the kernel.  Of the tables only the tokens in front of the declared one
matter (`firstToken?_eq_some_iff`).  In the first window none of them fits behind the known words,
so that the kernel is of no consequence for the aggregation; in the second one they all begin with
the marker, so that the reducer is read back from any kernel that has no marker early on.  A sum
of squares is read as a sum, here and in any other text: its token begins with the one of a sum.
So no operator is ever registered as one (`Context.Classified`).
-/
import KernelJit.Proofs.Classification.Locality
import KernelJit.Proofs.Session.Tags
import KernelJit.Proofs.Text.Clash

namespace KernelJit
namespace Classification

open Utf8 Search

/-! ## The first token -/

theorem firstToken?_eq_some_iff {α : Type} {tokens : List (String × α)} {near : String}
    (htokens : ∀ token ∈ tokens, AsciiToken (encode token.1)) {value : α} :
    firstToken? tokens near = some value ↔ ∃ before token after,
      tokens = before ++ (token, value) :: after ∧ Occurs token near ∧
        ∀ other ∈ before, ¬Occurs other.1 near := by
  unfold firstToken?
  rw [Option.map_eq_some_iff]
  constructor
  · rintro ⟨⟨token, _⟩, hfind, rfl⟩
    obtain ⟨hoccurs, before, after, hsplit, hno⟩ := List.find?_eq_some_iff_append.mp hfind
    subst hsplit
    refine ⟨before, token, after, rfl, ?_, ?_⟩
    · exact (htokens _ (List.mem_append_right _ List.mem_cons_self)).contains_encode_iff.mp hoccurs
    · intro other hmem hother
      have hascii := htokens other (List.mem_append_left _ hmem)
      have hnone := hno other hmem
      rw [hascii.contains_encode_iff.mpr hother] at hnone
      cases hnone
  · rintro ⟨before, token, after, rfl, hoccurs, hno⟩
    refine ⟨(token, value), List.find?_eq_some_iff_append.mpr ⟨?_, before, after, rfl, ?_⟩, rfl⟩
    · exact (htokens _ (List.mem_append_right _ List.mem_cons_self)).contains_encode_iff.mpr hoccurs
    · intro other hmem
      have hascii := htokens other (List.mem_append_left _ hmem)
      rw [Bool.not_eq_true', Bool.eq_false_iff]
      exact fun hcontains => hno other hmem (hascii.contains_encode_iff.mp hcontains)

theorem exists_firstToken?_of_read {α : Type} {marker source : String}
    {tokens : List (String × α)} {value : α} (h : read marker tokens source = .known value) :
    ∃ near, firstToken? tokens near = some value := by
  unfold read at h
  cases hindex : indexOf? (encode marker) (encode source) with
  | none =>
    rw [hindex] at h
    cases h
  | some start =>
    rw [hindex] at h
    dsimp only at h
    cases hfirst : firstToken? tokens (Window.windowAt source start) with
    | none =>
      rw [hfirst] at h
      cases h
    | some found =>
      rw [hfirst] at h
      exact ⟨_, hfirst.trans (congrArg some (Reading.known.inj h))⟩

/-- A source that begins with known words is read from them, if the tokens in front of the declared
one clash with the words and come too late in the rest of the source. -/
theorem read_of_words {α : Type} {marker token words tail : String}
    {tokens before after : List (String × α)} {value : α}
    (hascii : AsciiToken (encode marker) ∧ ∀ token ∈ tokens, AsciiToken (encode token.1))
    (hsize : marker.utf8ByteSize ≤ 30) (hsplit : tokens = before ++ (token, value) :: after)
    (hmarker : ∃ rest, words = marker ++ rest)
    (htoken : ∃ between rest, words = between ++ token ++ rest ∧
      between.utf8ByteSize + token.utf8ByteSize ≤ 30)
    (hclash : ∀ other ∈ before, ∀ i, i < words.utf8ByteSize → i + other.1.utf8ByteSize ≤ 30 →
      Clashes (encode other.1) (encode words) i)
    (hlate : ∀ other ∈ before, ∀ between after, tail = between ++ other.1 ++ after →
      30 < words.utf8ByteSize + between.utf8ByteSize + other.1.utf8ByteSize) :
    read marker tokens (words ++ tail) = .known value := by
  obtain ⟨rest, hrest⟩ := hmarker
  have hstart : words ++ tail = marker ++ (rest ++ tail) := by rw [hrest, String.append_assoc]
  obtain ⟨near, hnear⟩ := exists_near_start hascii.1 hsize hstart
  have hfirst : firstToken? tokens near = some value := by
    refine (firstToken?_eq_some_iff hascii.2).mpr ⟨before, token, after, hsplit, ?_, ?_⟩
    · obtain ⟨between, behind, hwords, hwithin⟩ := htoken
      refine hnear.occurs_iff.mpr ⟨between, behind ++ tail, ?_, hwithin⟩
      rw [hwords, String.empty_append, String.append_assoc]
    · intro other hother
      refine hnear.not_occurs_of_clashes (hascii.2 other ?_) (hclash other hother)
        (hlate other hother)
      rw [hsplit]
      exact List.mem_append_left _ hother
  rw [read_of_near hascii.1 hsize hnear, readNear, hfirst]

/-! ## The head of a source -/

/-- The two lines that declare an aggregation and a reducer. -/
def header (aggregation : Aggregation) (reducer : Reducer) : String :=
  "CellType." ++ aggregation.name ++ "\n// AggOp." ++ reducer.name ++ "\n"

/-- The reducer that a declared one is read as. -/
def asRead (reducer : Reducer) : Reducer :=
  if reducer = .sumOfSquares then .sum else reducer

variable {aggregation : Aggregation} {reducer : Reducer}

/-- What stands before an aggregation in the table clashes with its line, and is too long to stand
near the marker behind it. -/
theorem aggregation_split (h : aggregation ≠ .undeclared) :
    ∃ before after, aggregationTokens = before ++ (aggregation.name, aggregation) :: after ∧
      ∀ other ∈ before,
        let words := "CellType." ++ aggregation.name ++ "\n// AggOp."
        30 < words.utf8ByteSize + other.1.utf8ByteSize ∧
        ∀ i, i < words.utf8ByteSize → i + other.1.utf8ByteSize ≤ 30 →
          Clashes (encode other.1) (encode words) i := by
  cases aggregation with
  | undeclared => exact absurd rfl h
  | full => exact ⟨aggregationTokens.take 0, _, rfl, by decide +kernel⟩
  | row => exact ⟨aggregationTokens.take 1, _, rfl, by decide +kernel⟩
  | column => exact ⟨aggregationTokens.take 2, _, rfl, by decide +kernel⟩
  | cellwise => exact ⟨aggregationTokens.take 3, _, rfl, by decide +kernel⟩

/-- What stands before a reducer in the table clashes with its line. -/
theorem reducer_split (h : reducer ≠ .undeclared) :
    ∃ before after, reducerTokens =
        before ++ ("AggOp." ++ (asRead reducer).name, asRead reducer) :: after ∧
      ∀ other ∈ before,
        let words := "AggOp." ++ reducer.name ++ "\n"
        ∀ i, i < words.utf8ByteSize → i + other.1.utf8ByteSize ≤ 30 →
          Clashes (encode other.1) (encode words) i := by
  cases reducer with
  | undeclared => exact absurd rfl h
  | sum => exact ⟨reducerTokens.take 0, _, rfl, by decide +kernel⟩
  | sumOfSquares => exact ⟨reducerTokens.take 0, _, rfl, by decide +kernel⟩
  | min => exact ⟨reducerTokens.take 2, _, rfl, by decide +kernel⟩
  | max => exact ⟨reducerTokens.take 3, _, rfl, by decide +kernel⟩

theorem exists_name_asRead (reducer : Reducer) :
    ∃ rest, reducer.name = (asRead reducer).name ++ rest := by
  cases reducer with
  | sumOfSquares => exact ⟨"_SQ", rfl⟩
  | _ => exact ⟨"", String.append_empty.symm⟩

theorem exists_reducerToken_eq {other : String × Reducer} (h : other ∈ reducerTokens) :
    ∃ rest, other.1 = "AggOp" ++ rest ∧ 5 ≤ other.1.utf8ByteSize := by
  simp only [reducerTokens, List.mem_cons, List.not_mem_nil, or_false] at h
  rcases h with rfl | rfl | rfl | rfl
  · exact ⟨".SUM", rfl, by decide⟩
  · exact ⟨".SUM_SQ", rfl, by decide⟩
  · exact ⟨".MIN", rfl, by decide⟩
  · exact ⟨".MAX", rfl, by decide⟩

theorem read_aggregation_header (h : aggregation ≠ .undeclared) (reducer : Reducer)
    (body : String) :
    read aggregationMarker aggregationTokens (header aggregation reducer ++ body) =
      .known aggregation := by
  obtain ⟨before, after, hsplit, hbefore⟩ := aggregation_split h
  have hsource : header aggregation reducer ++ body =
      ("CellType." ++ aggregation.name ++ "\n// AggOp.") ++ (reducer.name ++ "\n" ++ body) := by
    simp only [header, String.append_assoc]
  rw [hsource]
  refine read_of_words asciiToken_aggregation (by decide) hsplit
    ⟨"." ++ aggregation.name ++ "\n// AggOp.", ?_⟩ ⟨"CellType.", "\n// AggOp.", rfl, ?_⟩
    (fun other hother => (hbefore other hother).2) ?_
  · rw [show "CellType." = aggregationMarker ++ "." from rfl]
    simp only [String.append_assoc]
  · cases aggregation <;> decide
  · intro other hother between _ _
    have hlong := (hbefore other hother).1
    omega

theorem read_reducer_header (aggregation : Aggregation) (h : reducer ≠ .undeclared) {body : String}
    (hbody : ∀ between after, body = between ++ "AggOp" ++ after → 20 ≤ between.utf8ByteSize) :
    read reducerMarker reducerTokens (header aggregation reducer ++ body) =
      .known (asRead reducer) := by
  obtain ⟨before, after, hsplit, hbefore⟩ := reducer_split h
  obtain ⟨rest, hname⟩ := exists_name_asRead reducer
  have hsource : header aggregation reducer ++ body =
      ("CellType." ++ aggregation.name ++ "\n// ") ++
        (("AggOp." ++ reducer.name ++ "\n") ++ body) := by
    rw [header, show "\n// AggOp." = "\n// " ++ "AggOp." from rfl]
    simp only [String.append_assoc]
  have hpast : StartsPast reducerMarker ("CellType." ++ aggregation.name ++ "\n// ")
      (("AggOp." ++ reducer.name ++ "\n") ++ body) := by
    have hhead : ("AggOp." ++ reducer.name ++ "\n") ++ body =
        "AggOp." ++ (reducer.name ++ "\n" ++ body) := by simp only [String.append_assoc]
    rw [hhead]
    refine startsPast_of_clashes asciiToken_reducer.1 ?_ _
    cases aggregation <;> decide +kernel
  rw [hsource, read_congr asciiToken_reducer.1 (by decide)
    (sameNear_prepend asciiToken_reducer.1 (by decide) hpast)]
  refine read_of_words asciiToken_reducer (by decide) hsplit
    ⟨"." ++ reducer.name ++ "\n", ?_⟩ ⟨"", rest ++ "\n", ?_, ?_⟩ hbefore ?_
  · rw [show "AggOp." = reducerMarker ++ "." from rfl]
    simp only [String.append_assoc]
  · rw [hname]
    simp only [String.append_assoc, String.empty_append]
  · cases reducer <;> decide
  · intro other hother between later hcut
    have hmem : other ∈ reducerTokens := by
      rw [hsplit]
      exact List.mem_append_left _ hother
    obtain ⟨token, htoken, hlong⟩ := exists_reducerToken_eq hmem
    have hlate := hbody between (token ++ later) (by
      rw [hcut, htoken]
      simp only [String.append_assoc])
    simp only [String.utf8ByteSize_append]
    have hwords : "AggOp.".utf8ByteSize = 6 := rfl
    omega

/-! ## Sources with a head -/

variable {source before body : String}

theorem ofSource_of_known
    (h : read aggregationMarker aggregationTokens source = .known aggregation) :
    ofSource source =
      if aggregation = .cellwise then (⟨.cellwise, .undeclared, []⟩, [])
      else withReducer aggregation [] source := by
  rw [ofSource, h]
  cases aggregation <;> rfl

theorem withReducer_of_known (h : read reducerMarker reducerTokens source = .known reducer)
    (aggregation : Aggregation) (warnings : List Warning) :
    withReducer aggregation warnings source = report ⟨aggregation, reducer, warnings⟩ := by
  rw [withReducer, h]

/-- Text ahead of the head does not count if it has no marker. -/
theorem ofSource_before_header (hfirst : ¬Occurs aggregationMarker before)
    (hsecond : ¬Occurs reducerMarker before) (aggregation : Aggregation) (reducer : Reducer)
    (body : String) :
    ofSource (before ++ (header aggregation reducer ++ body)) =
      ofSource (header aggregation reducer ++ body) := by
  have hhead : header aggregation reducer ++ body = "CellType." ++
      (aggregation.name ++ "\n// AggOp." ++ reducer.name ++ "\n" ++ body) := by
    simp only [header, String.append_assoc]
  rw [hhead]
  exact ofSource_prepend
    (startsPast_of_not_occurs asciiToken_aggregation.1 hfirst (by decide +kernel) _)
    (startsPast_of_not_occurs asciiToken_reducer.1 hsecond (by decide +kernel) _)

theorem aggregation_header (h : aggregation ≠ .undeclared) (reducer : Reducer) (body : String) :
    (ofSource (header aggregation reducer ++ body)).1.aggregation = aggregation := by
  rw [ofSource_of_known (read_aggregation_header h reducer body)]
  split
  · next hcellwise => exact hcellwise.symm
  · exact (withReducer_eq aggregation [] _).1

theorem ofSource_header (haggregation : aggregation ≠ .undeclared)
    (hreducer : reducer ≠ .undeclared)
    (hbody : aggregation = .cellwise ∨
      ∀ between after, body = between ++ "AggOp" ++ after → 20 ≤ between.utf8ByteSize) :
    (ofSource (header aggregation reducer ++ body)).1 =
      ⟨aggregation, if aggregation = .cellwise then .undeclared else asRead reducer, []⟩ := by
  rw [ofSource_of_known (read_aggregation_header haggregation reducer body)]
  by_cases hcellwise : aggregation = .cellwise
  · rw [if_pos hcellwise, if_pos hcellwise, hcellwise]
  · have hread := read_reducer_header aggregation hreducer (hbody.resolve_left hcellwise)
    rw [if_neg hcellwise, if_neg hcellwise, withReducer_of_known hread]
    rfl

/-! ## Sums of squares -/

theorem firstToken?_reducer_ne (near : String) :
    firstToken? reducerTokens near ≠ some .sumOfSquares := by
  intro h
  by_cases hsum : Occurs "AggOp.SUM" near
  · have hfirst : firstToken? reducerTokens near = some .sum :=
      (firstToken?_eq_some_iff asciiToken_reducer.2).mpr
        ⟨[], "AggOp.SUM", _, rfl, hsum, List.forall_mem_nil _⟩
    cases hfirst.symm.trans h
  · obtain ⟨before, token, after, hsplit, ⟨between, behind, hnear⟩, _⟩ :=
      (firstToken?_eq_some_iff asciiToken_reducer.2).mp h
    have htoken : token = "AggOp.SUM" ++ "_SQ" := by
      have hmem : (token, Reducer.sumOfSquares) ∈ reducerTokens := by
        rw [hsplit]
        exact List.mem_append_right _ List.mem_cons_self
      simpa [reducerTokens] using hmem
    refine hsum ⟨between, "_SQ" ++ behind, ?_⟩
    rw [hnear, htoken]
    simp only [String.append_assoc]

theorem reducer_withReducer_ne (aggregation : Aggregation) (warnings : List Warning)
    (source : String) : (withReducer aggregation warnings source).1.reducer ≠ .sumOfSquares := by
  cases hread : read reducerMarker reducerTokens source with
  | absent =>
    rw [withReducer, hread]
    exact fun h => by cases h
  | unknown near =>
    rw [withReducer, hread]
    exact fun h => by cases h
  | known reducer =>
    rw [withReducer_of_known hread]
    rintro rfl
    obtain ⟨near, hfirst⟩ := exists_firstToken?_of_read hread
    exact firstToken?_reducer_ne near hfirst

theorem reducer_ofSource_ne (source : String) :
    (ofSource source).1.reducer ≠ .sumOfSquares := by
  rcases ofSource_cases source with ⟨_, hsource⟩ | ⟨_, hsource⟩ | ⟨_, _, _, _, hsource⟩
  · rw [hsource]
    exact fun h => by cases h
  · rw [hsource]
    exact fun h => by cases h
  · rw [hsource]
    exact reducer_withReducer_ne _ _ source

end Classification

/-! ## Registered operators -/

namespace Context

/-- Every registered operator shows the classification of some source. -/
def Classified (context : Context) : Prop :=
  ∀ entry ∈ context.operators.entries, ∃ source,
    entry.2.value.aggregation = (Classification.ofSource source).1.aggregation ∧
      entry.2.value.reducer = (Classification.ofSource source).1.reducer

variable {context : Context}

theorem classified_of_empty (h : context.operators = .empty) : context.Classified := by
  unfold Classified
  rw [h]
  exact List.forall_mem_nil _

theorem Classified.call (h : context.Classified) (call : Call) :
    (context.call call).state.Classified := by
  rcases call_cases context call with ⟨_, _, _, _, _, hstate⟩ | ⟨_, hstate | ⟨_, _, _, hstate⟩⟩
  · rw [hstate]
    intro entry hmem
    rcases Registry.mem_place hmem with rfl | hold
    · exact ⟨call.source, rfl, rfl⟩
    · exact h entry hold
  · rw [hstate]
    exact h
  · rw [hstate]
    exact h

theorem classified_reached (device : UInt32) (options : Options) (backend : Backend)
    (ties : TieBreak) (calls : List Call) :
    ((create device options backend ties).reached calls).Classified :=
  reached_of_preserved (fun _ call h => h.call call) (classified_of_empty rfl) calls

theorem Classified.reducer_ne (h : context.Classified) {name : String}
    {operator : Shared Operator} (hfind : context.operator? name = some operator) :
    operator.value.reducer ≠ .sumOfSquares := by
  obtain ⟨entry, hentry, rfl⟩ := Option.map_eq_some_iff.mp hfind
  obtain ⟨source, _, hreducer⟩ := h entry (List.mem_of_find?_eq_some hentry)
  rw [hreducer]
  exact Classification.reducer_ofSource_ne source

end Context

theorem Thread.classified_reached {ρ : Type} (settings : Settings) (ties : TieBreak)
    {acts : List (Act ρ)} (hworks : ∀ act ∈ acts, act.ByCalls) :
    (Run.final perform (fresh settings ties) acts).Every Context.Classified :=
  every_reached settings ties (fun _ call h => h.call call)
    (fun _ _ _ hmade => Context.classified_of_empty (Act.operators_of_made hmade)) hworks

namespace Classification

open Utf8 Search

/-- The head of a generated source is read back.  Behind any text without a marker, two lines
that declare an aggregation and a reducer give the aggregation, whatever the body; and if the
kernel is computed cell by cell, or no `AggOp` begins in the first twenty bytes of the body, they
give the reducer as well, without a warning: none for a kernel that is computed cell by cell, a
sum for a sum of squares, and any other as it was declared.  No source at all is read as a sum of
squares, and so no operator is registered as one, neither by calls of a context nor in any run of
a thread. -/
theorem header_read_back :
    (∀ before aggregation reducer body, ¬Occurs "CellType" before → ¬Occurs "AggOp" before →
      aggregation ≠ .undeclared → reducer ≠ .undeclared →
        let c := (ofSource (before ++ "CellType." ++ aggregation.name ++ "\n// AggOp." ++
          reducer.name ++ "\n" ++ body)).1
        c.aggregation = aggregation ∧
        ((aggregation = .cellwise ∨
            ∀ between after, body = between ++ "AggOp" ++ after → 20 ≤ between.utf8ByteSize) →
          c.warnings = [] ∧ c.reducer =
            if aggregation = .cellwise then .undeclared
            else if reducer = .sumOfSquares then .sum else reducer)) ∧
    (∀ source, (ofSource source).1.reducer ≠ .sumOfSquares) ∧
    (∀ device options backend ties calls name operator,
      ((Context.create device options backend ties).reached calls).operator? name =
        some operator → operator.value.reducer ≠ .sumOfSquares) ∧
    ∀ (ρ : Type) (settings : Settings) (ties : TieBreak) (acts : List (Act ρ)),
      (∀ act ∈ acts, act.ByCalls) → ∀ context,
        (Run.final Thread.perform (Thread.fresh settings ties) acts).Has context →
          ∀ name operator, context.operator? name = some operator →
            operator.value.reducer ≠ .sumOfSquares := by
  refine ⟨?_, reducer_ofSource_ne, ?_, ?_⟩
  · intro before aggregation reducer body hfirst hsecond haggregation hreducer
    have hsource : before ++ "CellType." ++ aggregation.name ++ "\n// AggOp." ++ reducer.name ++
        "\n" ++ body = before ++ (header aggregation reducer ++ body) := by
      simp only [header, String.append_assoc]
    rw [hsource, ofSource_before_header hfirst hsecond]
    refine ⟨aggregation_header haggregation reducer body, fun hbody => ?_⟩
    rw [ofSource_header haggregation hreducer hbody]
    exact ⟨rfl, rfl⟩
  · intro device options backend ties calls name operator hfind
    exact (Context.classified_reached device options backend ties calls).reducer_ne hfind
  · intro ρ settings ties acts hworks context hhas name operator hfind
    exact ((Thread.classified_reached settings ties hworks).of_has hhas).reducer_ne hfind

/-- The text ahead ends like a marker, and the body has twenty bytes before it declares other
values. -/
theorem header_read_back_sum_of_squares :
    let before := "é AggO Cell"
    let body := "é return a*a; é //" ++ "AggOp.MAX CellType.FULL_AGG AggOp.SUM_SQ"
    let source := before ++ "CellType." ++ Aggregation.row.name ++ "\n// AggOp." ++
      Reducer.sumOfSquares.name ++ "\n" ++ body
    let backend : Backend :=
      { name := "b", answer := fun _ _ => .done { ptx := "p", device := 0, variant := 0 } }
    let context := Context.create 0 {} backend .oldest
    (¬Occurs "CellType" before ∧ ¬Occurs "AggOp" before ∧
      ∀ between after, body = between ++ "AggOp" ++ after → 20 ≤ between.utf8ByteSize) ∧
    ((ofSource source).1.aggregation = .row ∧ (ofSource source).1.warnings = [] ∧
      (ofSource source).1.reducer = .sum) ∧
    ∃ operator, (context.reached [⟨fun _ => some "/", source, "k"⟩]).operator? "k" =
      some operator ∧ operator.value.reducer ≠ .sumOfSquares := by
  intro before body source backend context
  have hascii : AsciiToken (encode "CellType") ∧ AsciiToken (encode "AggOp") := by decide +kernel
  have hfirst : ¬Occurs "CellType" before := by
    rw [← hascii.1.contains_encode_iff]
    decide +kernel
  have hsecond : ¬Occurs "AggOp" before := by
    rw [← hascii.2.contains_encode_iff]
    decide +kernel
  have hbody : StartsPast "AggOp" "é return a*a; é //" "AggOp.MAX CellType.FULL_AGG AggOp.SUM_SQ" :=
    (startsPast_iff hascii.2).mpr (by decide +kernel)
  obtain ⟨hread, _, hcalls, _⟩ := header_read_back
  obtain ⟨haggregation, hrest⟩ :=
    hread before .row .sumOfSquares body hfirst hsecond (by decide) (by decide)
  obtain ⟨hwarnings, hreducer⟩ := hrest (Or.inr hbody)
  rw [if_neg (by decide), if_pos rfl] at hreducer
  have hregistered :
      ((context.reached [⟨fun _ => some "/", source, "k"⟩]).operator? "k").isSome = true := by
    decide +kernel
  obtain ⟨operator, hfind⟩ := Option.isSome_iff_exists.mp hregistered
  have hsource : source = before ++ "CellType." ++ Aggregation.row.name ++ "\n// AggOp." ++
    Reducer.sumOfSquares.name ++ "\n" ++ body := rfl
  rw [← hsource] at haggregation hwarnings hreducer
  refine ⟨⟨hfirst, hsecond, hbody⟩, ⟨haggregation, hwarnings, hreducer⟩, operator, hfind, ?_⟩
  exact hcalls 0 {} backend .oldest [⟨fun _ => some "/", source, "k"⟩] "k" operator hfind

end Classification
end KernelJit
