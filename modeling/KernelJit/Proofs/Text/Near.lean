/-
The text near a marker, without bytes.

Searching and cutting work on the bytes of a source.  Where a token of ASCII bytes stands
among the bytes of a text, the token stands in the text (`occursAt_encode_iff`), and a window
between two boundaries is a part of the text (`Window.exists_around`).  So the window at the
first occurrence of a marker can be told from the texts alone: `Near` says what it is, at
most one text is it (`Near.unique`), and the search finds it (`near_iff_windowAt`).
-/
import KernelJit.Proofs.Text.Window

namespace KernelJit

/-- One text is a part of another. -/
def Occurs (part text : String) : Prop :=
  ∃ before after, text = before ++ part ++ after

/-- Where two ways of cutting a text differ, a piece of text lies in between. -/
theorem exists_between_cuts {a b c d : String} (h : a ++ b = c ++ d)
    (hle : a.utf8ByteSize ≤ c.utf8ByteSize) : ∃ piece, c = a ++ piece ∧ b = piece ++ d := by
  have hchars : a.toList ++ b.toList = c.toList ++ d.toList := by
    rw [← String.toList_append, ← String.toList_append, h]
  obtain ⟨piece, hc, hb⟩ :
      ∃ piece, c.toList = a.toList ++ piece ∧ b.toList = piece ++ d.toList := by
    rcases List.append_eq_append_iff.mp hchars with hbefore | ⟨piece, ha, hd⟩
    · exact hbefore
    · -- The second cut comes first, so that the piece in between has no bytes.
      have hsame : a = c ++ String.ofList piece := by
        apply String.toList_inj.mp
        rw [String.toList_append, String.toList_ofList, ha]
      have hempty : String.ofList piece = "" := by
        apply String.utf8ByteSize_eq_zero_iff.mp
        rw [hsame, String.utf8ByteSize_append] at hle
        omega
      have hnil : piece = [] := String.toList_ofList.symm.trans (congrArg String.toList hempty)
      rw [hnil, List.append_nil] at ha
      rw [hnil, List.nil_append] at hd
      exact ⟨[], by rw [ha, List.append_nil], by rw [hd, List.nil_append]⟩
  refine ⟨String.ofList piece, ?_, ?_⟩
  · apply String.toList_inj.mp
    rw [String.toList_append, String.toList_ofList, hc]
  · apply String.toList_inj.mp
    rw [String.toList_append, String.toList_ofList, hb]

/-- Texts of one length at one place are the same. -/
theorem eq_of_cuts {a b c d : String} (h : a ++ b = c ++ d)
    (hsize : a.utf8ByteSize = c.utf8ByteSize) : a = c ∧ b = d := by
  obtain ⟨piece, hc, hb⟩ := exists_between_cuts h (Nat.le_of_eq hsize)
  have hempty : piece = "" := by
    apply String.utf8ByteSize_eq_zero_iff.mp
    rw [hc, String.utf8ByteSize_append] at hsize
    omega
  rw [hempty] at hc hb
  rw [String.append_empty] at hc
  rw [String.empty_append] at hb
  exact ⟨hc.symm, hb⟩

namespace AsciiToken

open Search Utf8

variable {token source : String}

/-- The bytes of a token stand in the bytes of a text where the token stands in the text. -/
theorem occursAt_encode_iff (htoken : AsciiToken (encode token)) {i : Nat} :
    OccursAt (encode token) (encode source) i ↔
      ∃ before after, source = before ++ token ++ after ∧ i = before.utf8ByteSize := by
  constructor
  · intro h
    obtain ⟨hstart, hend⟩ := htoken.isBoundary_of_occursAt h
    obtain ⟨before, behind, rfl, rfl⟩ := isBoundary_encode_iff.mp hstart
    obtain ⟨upto, after, hcut, hlength⟩ := isBoundary_encode_iff.mp hend
    rw [length_encode, length_encode, length_encode] at hlength
    obtain ⟨piece, rfl, rfl⟩ := exists_between_cuts hcut (by omega)
    obtain ⟨bytes, hbytes⟩ := h.2
    rw [encode_append, List.drop_left, encode_append] at hbytes
    rw [String.utf8ByteSize_append] at hlength
    have hpiece : token = piece := by
      apply encode_injective
      refine (List.append_inj hbytes ?_).1
      rw [length_encode, length_encode]
      omega
    exact ⟨before, after, by rw [hpiece, String.append_assoc], rfl⟩
  · intro h
    obtain ⟨before, after, rfl, rfl⟩ := h
    rw [encode_append, encode_append, List.append_assoc]
    refine ⟨?_, ?_⟩
    · rw [List.length_append]
      exact Nat.le_add_right _ _
    · rw [show before.utf8ByteSize = (encode before).length from rfl, List.drop_left]
      exact List.prefix_append _ _

/-- A token occurs in a text if its bytes occur among those of the text. -/
theorem contains_encode_iff (htoken : AsciiToken (encode token)) :
    contains (encode source) (encode token) = true ↔ Occurs token source := by
  rw [contains_iff]
  constructor
  · intro h
    obtain ⟨i, hi⟩ := h
    obtain ⟨before, after, hsource, _⟩ := htoken.occursAt_encode_iff.mp hi
    exact ⟨before, after, hsource⟩
  · intro h
    obtain ⟨before, after, hsource⟩ := h
    exact ⟨_, htoken.occursAt_encode_iff.mpr ⟨before, after, hsource, rfl⟩⟩

end AsciiToken

/-! ## Windows -/

/-- The text near the first occurrence of a marker: from there on as much of the source as
fits into thirty bytes. -/
structure Near (marker source before near : String) : Prop where
  begins : ∃ rest, near = marker ++ rest
  placed : ∃ after, source = before ++ near ++ after
  first : ∀ other rest, source = other ++ marker ++ rest →
    before.utf8ByteSize ≤ other.utf8ByteSize
  short : near.utf8ByteSize ≤ 30
  longest : ∀ longer rest, source = before ++ longer ++ rest → longer.utf8ByteSize ≤ 30 →
    longer.utf8ByteSize ≤ near.utf8ByteSize

namespace Near

variable {marker source before near : String}

theorem occurs (h : Near marker source before near) : Occurs marker source := by
  obtain ⟨⟨rest, rfl⟩, ⟨after, hsource⟩, _⟩ := h
  exact ⟨before, rest ++ after, by rw [hsource]; simp only [String.append_assoc]⟩

theorem unique {before' near' : String} (h : Near marker source before near)
    (h' : Near marker source before' near') : before = before' ∧ near = near' := by
  obtain ⟨⟨rest, hrest⟩, ⟨after, hsource⟩, hfirst, hshort, hlongest⟩ := h
  obtain ⟨⟨rest', hrest'⟩, ⟨after', hsource'⟩, hfirst', hshort', hlongest'⟩ := h'
  have hle : before.utf8ByteSize ≤ before'.utf8ByteSize :=
    hfirst before' (rest' ++ after') (by rw [hsource', hrest']; simp only [String.append_assoc])
  have hge : before'.utf8ByteSize ≤ before.utf8ByteSize :=
    hfirst' before (rest ++ after) (by rw [hsource, hrest]; simp only [String.append_assoc])
  rw [String.append_assoc] at hsource hsource'
  obtain ⟨hbefore, hbehind⟩ := eq_of_cuts (hsource.symm.trans hsource') (Nat.le_antisymm hle hge)
  subst hbefore
  rw [← String.append_assoc] at hsource hsource'
  have hsize : near.utf8ByteSize = near'.utf8ByteSize :=
    Nat.le_antisymm (hlongest' near after hsource hshort) (hlongest near' after' hsource' hshort')
  exact ⟨rfl, (eq_of_cuts hbehind hsize).1⟩

end Near

open Search Utf8

variable {marker source near : String} {start : Nat}

/-- A window is a part of the source, from its start on up to its stop. -/
theorem Window.exists_around (h : isBoundary (encode source) start = true) :
    ∃ before after, source = before ++ windowAt source start ++ after ∧
      before.utf8ByteSize = start ∧
      start + (windowAt source start).utf8ByteSize = stop (encode source) start := by
  obtain ⟨before, behind, hstart, hlength⟩ := isBoundary_encode_iff.mp h
  obtain ⟨upto, after, hstop, hreach⟩ :=
    isBoundary_encode_iff.mp (isBoundary_stop (encode source) start)
  have hle := le_stop h
  rw [length_encode] at hlength hreach
  obtain ⟨piece, hupto, _⟩ := exists_between_cuts (hstart.symm.trans hstop) (by omega)
  have hpiece : windowAt source start = piece := by
    apply encode_injective
    rw [encode_windowAt h, bytesAt, hreach, hlength, hstop, encode_append]
    rw [← length_encode upto, List.take_left, hupto, encode_append]
    rw [← length_encode before, List.drop_left]
  rw [hpiece]
  refine ⟨before, after, by rw [← hupto]; exact hstop, hlength.symm, ?_⟩
  rw [hreach, hupto, String.utf8ByteSize_append, hlength]

/-- A text that stands where a window begins, and fits into its bytes, is no longer than the
window. -/
theorem Window.size_le_of_cut {before longer rest : String}
    (hcut : source = before ++ longer ++ rest) (hfits : longer.utf8ByteSize ≤ reach) :
    longer.utf8ByteSize ≤ (windowAt source before.utf8ByteSize).utf8ByteSize := by
  have hstart : isBoundary (encode source) before.utf8ByteSize = true :=
    isBoundary_encode_iff.mpr ⟨before, longer ++ rest, by rw [hcut, String.append_assoc], rfl⟩
  obtain ⟨_, _, _, _, hstop⟩ := exists_around hstart
  -- The text ends at a boundary, which cutting back does not pass.
  have hend : isBoundary (encode source) (before.utf8ByteSize + longer.utf8ByteSize) = true := by
    refine isBoundary_encode_iff.mpr ⟨before ++ longer, rest, hcut, ?_⟩
    rw [length_encode, String.utf8ByteSize_append]
  have hle : before.utf8ByteSize + longer.utf8ByteSize ≤ stop (encode source) before.utf8ByteSize :=
    le_floorBoundary hend
      (Nat.le_min.mpr ⟨Nat.add_le_add_left hfits _, le_length_of_isBoundary hend⟩)
  omega

/-- The window at the first occurrence of a marker is the text near it. -/
theorem near_windowAt (hmarker : AsciiToken (encode marker)) (hsize : marker.utf8ByteSize ≤ 30)
    (h : indexOf? (encode marker) (encode source) = some start) :
    ∃ before, Near marker source before (Window.windowAt source start) := by
  obtain ⟨hoccurs, hfirst⟩ := indexOf?_eq_some_iff.mp h
  have hstart := (hmarker.isBoundary_of_occursAt hoccurs).1
  obtain ⟨before, after, hsource, hlength, hstop⟩ := Window.exists_around hstart
  have hreach := Window.stop_le_add (encode source) start
  have hlongest : ∀ longer rest, source = before ++ longer ++ rest → longer.utf8ByteSize ≤ 30 →
      longer.utf8ByteSize ≤ (Window.windowAt source start).utf8ByteSize := by
    intro longer rest hcut hlonger
    rw [← hlength]
    exact Window.size_le_of_cut hcut hlonger
  refine ⟨before, ⟨?_, ⟨after, hsource⟩, ?_, ?_, hlongest⟩⟩
  · obtain ⟨same, rest, hmarked, hplace⟩ := hmarker.occursAt_encode_iff.mp hoccurs
    have hcut := hmarked.symm.trans hsource
    rw [String.append_assoc, String.append_assoc] at hcut
    obtain ⟨rfl, hbehind⟩ := eq_of_cuts hcut (by omega)
    obtain ⟨piece, hpiece, _⟩ := exists_between_cuts hbehind (hlongest marker rest hmarked hsize)
    exact ⟨piece, hpiece⟩
  · intro other rest hother
    rw [hlength]
    refine Nat.le_of_not_lt fun hlt => hfirst _ hlt ?_
    exact hmarker.occursAt_encode_iff.mpr ⟨other, rest, hother, rfl⟩
  · have hfits : Window.reach = 30 := rfl
    omega

/-- What is near a marker is found by searching for the marker. -/
theorem near_iff_windowAt (hmarker : AsciiToken (encode marker))
    (hsize : marker.utf8ByteSize ≤ 30) :
    (∃ before, Near marker source before near) ↔
      ∃ start, indexOf? (encode marker) (encode source) = some start ∧
        near = Window.windowAt source start := by
  constructor
  · intro h
    obtain ⟨before, hnear⟩ := h
    obtain ⟨start, hstart⟩ := Option.isSome_iff_exists.mp
      (hmarker.contains_encode_iff.mpr hnear.occurs)
    obtain ⟨before', hwindow⟩ := near_windowAt hmarker hsize hstart
    exact ⟨start, hstart, (hnear.unique hwindow).2⟩
  · intro h
    obtain ⟨start, hstart, rfl⟩ := h
    exact near_windowAt hmarker hsize hstart

/-- A marker that occurs has one text near it. -/
theorem exists_near (hmarker : AsciiToken (encode marker)) (hsize : marker.utf8ByteSize ≤ 30)
    (h : Occurs marker source) : ∃ before near, Near marker source before near := by
  obtain ⟨start, hstart⟩ := Option.isSome_iff_exists.mp (hmarker.contains_encode_iff.mpr h)
  obtain ⟨before, hwindow⟩ := near_windowAt hmarker hsize hstart
  exact ⟨before, _, hwindow⟩

end KernelJit
