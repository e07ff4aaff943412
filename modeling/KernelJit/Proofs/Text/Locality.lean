/-
The text near a marker, in a longer source.

What is near the first occurrence of a marker ends within thirty bytes, so text behind those
bytes is not a part of it (`Near.append`).  It begins with the first occurrence, so text ahead
of that is not a part of it either, as long as no occurrence begins there (`Near.prepend`).  Both
are read off the places where a text can be cut, and neither asks where the thirty bytes end:
inside a character, the character is left out of the shorter source and of the longer one.
-/
import KernelJit.Proofs.Text.Near

namespace KernelJit

/-- There are thirty bytes of a source from the first occurrence of a marker on. -/
def Whole (marker source : String) : Prop :=
  ∃ before after, source = before ++ marker ++ after ∧
    (∀ other rest, source = other ++ marker ++ rest → before.utf8ByteSize ≤ other.utf8ByteSize) ∧
    before.utf8ByteSize + 30 ≤ source.utf8ByteSize

/-- Where a marker occurs in two texts, one after the other, it begins in the second. -/
def StartsPast (marker ahead source : String) : Prop :=
  ∀ other rest, ahead ++ source = other ++ marker ++ rest →
    ahead.utf8ByteSize ≤ other.utf8ByteSize

/-- Two sources have the same text near a marker, or neither of them has the marker. -/
def SameNear (marker source other : String) : Prop :=
  ∀ near, (∃ before, Near marker source before near) ↔ ∃ before, Near marker other before near

variable {marker source before near part : String}

namespace Near

theorem marker_size_le (h : Near marker source before near) : marker.utf8ByteSize ≤ 30 := by
  obtain ⟨rest, hrest⟩ := h.begins
  have hshort := h.short
  rw [hrest, String.utf8ByteSize_append] at hshort
  omega

/-- The text near a marker shows what stands in the source within thirty bytes. -/
theorem occurs_iff (h : Near marker source before near) :
    Occurs part near ↔ ∃ between after, source = before ++ between ++ part ++ after ∧
      between.utf8ByteSize + part.utf8ByteSize ≤ 30 := by
  obtain ⟨after, hsource⟩ := h.placed
  constructor
  · rintro ⟨between, rest, hnear⟩
    have hshort := h.short
    rw [hnear, String.utf8ByteSize_append, String.utf8ByteSize_append] at hshort
    refine ⟨between, rest ++ after, ?_, by omega⟩
    rw [hsource, hnear]
    simp only [String.append_assoc]
  · rintro ⟨between, beyond, hcut, hsize⟩
    have hlongest := h.longest (between ++ part) beyond
      (by rw [hcut]; simp only [String.append_assoc])
      (by rw [String.utf8ByteSize_append]; exact hsize)
    have hbehind : (between ++ part) ++ beyond = near ++ after := by
      apply (String.append_right_inj before).mp
      calc before ++ (between ++ part ++ beyond)
          = before ++ between ++ part ++ beyond := by simp only [String.append_assoc]
        _ = before ++ near ++ after := hcut.symm.trans hsource
        _ = before ++ (near ++ after) := String.append_assoc
    obtain ⟨rest, hrest, _⟩ := exists_between_cuts hbehind hlongest
    exact ⟨between, rest, hrest⟩

/-- Text behind a source does not count if the thirty bytes are there without it. -/
theorem append (h : Near marker source before near)
    (hroom : before.utf8ByteSize + 30 ≤ source.utf8ByteSize) (behind : String) :
    Near marker (source ++ behind) before near := by
  obtain ⟨after, hsource⟩ := h.placed
  -- What ends within the thirty bytes is a part of the shorter source.
  have hwithin : ∀ upto beyond, source ++ behind = upto ++ beyond →
      upto.utf8ByteSize ≤ before.utf8ByteSize + 30 → ∃ piece, source = upto ++ piece := by
    intro upto beyond hcut hsize
    obtain ⟨piece, hpiece, _⟩ := exists_between_cuts hcut.symm (Nat.le_trans hsize hroom)
    exact ⟨piece, hpiece⟩
  refine ⟨h.begins, ⟨after ++ behind, ?_⟩, ?_, h.short, ?_⟩
  · rw [hsource]
    simp only [String.append_assoc]
  · intro other beyond hother
    refine Nat.le_of_not_lt fun hlt => ?_
    have hmarker := h.marker_size_le
    obtain ⟨piece, hpiece⟩ := hwithin (other ++ marker) beyond hother
      (by rw [String.utf8ByteSize_append]; omega)
    have hfirst := h.first other piece hpiece
    omega
  · intro longer beyond hlonger hsize
    obtain ⟨piece, hpiece⟩ := hwithin (before ++ longer) beyond hlonger
      (by rw [String.utf8ByteSize_append]; omega)
    exact h.longest longer piece hpiece hsize

/-- Text ahead of a source does not count if no occurrence begins in it. -/
theorem prepend (h : Near marker source before near) {ahead : String}
    (hpast : StartsPast marker ahead source) :
    Near marker (ahead ++ source) (ahead ++ before) near := by
  obtain ⟨after, hsource⟩ := h.placed
  refine ⟨h.begins, ⟨after, ?_⟩, ?_, h.short, ?_⟩
  · rw [hsource]
    simp only [String.append_assoc]
  · intro other rest hother
    have hle := hpast other rest hother
    rw [String.append_assoc] at hother
    obtain ⟨piece, rfl, hpiece⟩ := exists_between_cuts hother hle
    have hfirst := h.first piece rest (by rw [hpiece, String.append_assoc])
    rw [String.utf8ByteSize_append, String.utf8ByteSize_append]
    omega
  · intro longer rest hlonger hsize
    refine h.longest longer rest ?_ hsize
    apply (String.append_right_inj ahead).mp
    rw [hlonger]
    simp only [String.append_assoc]

end Near

namespace SameNear

variable {other ahead behind : String}

theorem of_near {before' : String} (h : Near marker source before near)
    (h' : Near marker other before' near) : SameNear marker source other := by
  intro text
  constructor
  · rintro ⟨_, htext⟩
    rw [(htext.unique h).2]
    exact ⟨before', h'⟩
  · rintro ⟨_, htext⟩
    rw [(htext.unique h').2]
    exact ⟨before, h⟩

theorem of_not_occurs (h : ¬Occurs marker source) (h' : ¬Occurs marker other) :
    SameNear marker source other :=
  fun _ => iff_of_false (fun ⟨_, hnear⟩ => h hnear.occurs) (fun ⟨_, hnear⟩ => h' hnear.occurs)

end SameNear

/-! ## Longer sources -/

open Search Utf8

theorem whole_iff (hmarker : AsciiToken (encode marker)) :
    Whole marker source ↔ ∃ start, indexOf? (encode marker) (encode source) = some start ∧
      start + 30 ≤ source.utf8ByteSize := by
  constructor
  · rintro ⟨before, after, hsource, hfirst, hroom⟩
    refine ⟨before.utf8ByteSize, indexOf?_eq_some_iff.mpr ⟨?_, ?_⟩, hroom⟩
    · exact hmarker.occursAt_encode_iff.mpr ⟨before, after, hsource, rfl⟩
    · intro i hi hoccurs
      obtain ⟨other, rest, hother, rfl⟩ := hmarker.occursAt_encode_iff.mp hoccurs
      exact absurd (hfirst other rest hother) (Nat.not_le_of_lt hi)
  · rintro ⟨start, hstart, hroom⟩
    obtain ⟨hoccurs, hfirst⟩ := indexOf?_eq_some_iff.mp hstart
    obtain ⟨before, after, hsource, rfl⟩ := hmarker.occursAt_encode_iff.mp hoccurs
    refine ⟨before, after, hsource, ?_, hroom⟩
    intro other rest hother
    refine Nat.le_of_not_lt fun hlt => hfirst _ hlt ?_
    exact hmarker.occursAt_encode_iff.mpr ⟨other, rest, hother, rfl⟩

theorem startsPast_iff (hmarker : AsciiToken (encode marker)) {ahead : String} :
    StartsPast marker ahead source ↔
      ∀ i, i < ahead.utf8ByteSize → ¬OccursAt (encode marker) (encode (ahead ++ source)) i := by
  constructor
  · intro h i hi hoccurs
    obtain ⟨other, rest, hother, rfl⟩ := hmarker.occursAt_encode_iff.mp hoccurs
    exact absurd (h other rest hother) (Nat.not_le_of_lt hi)
  · intro h other rest hother
    refine Nat.le_of_not_lt fun hlt => h _ hlt ?_
    exact hmarker.occursAt_encode_iff.mpr ⟨other, rest, hother, rfl⟩

theorem sameNear_append (hmarker : AsciiToken (encode marker)) (hsize : marker.utf8ByteSize ≤ 30)
    (h : Whole marker source) (behind : String) : SameNear marker source (source ++ behind) := by
  obtain ⟨first, after, hsource, _, hroom⟩ := h
  obtain ⟨before, near, hnear⟩ := exists_near hmarker hsize ⟨first, after, hsource⟩
  have hle := hnear.first first after hsource
  exact SameNear.of_near hnear (hnear.append (by omega) behind)

theorem sameNear_prepend (hmarker : AsciiToken (encode marker)) (hsize : marker.utf8ByteSize ≤ 30)
    {ahead : String} (h : StartsPast marker ahead source) :
    SameNear marker source (ahead ++ source) := by
  by_cases hoccurs : Occurs marker source
  · obtain ⟨before, near, hnear⟩ := exists_near hmarker hsize hoccurs
    exact SameNear.of_near hnear (hnear.prepend h)
  · refine SameNear.of_not_occurs hoccurs ?_
    rintro ⟨other, rest, hother⟩
    have hle := h other rest hother
    rw [String.append_assoc] at hother
    obtain ⟨piece, _, hpiece⟩ := exists_between_cuts hother hle
    exact hoccurs ⟨piece, rest, by rw [hpiece, String.append_assoc]⟩

end KernelJit
