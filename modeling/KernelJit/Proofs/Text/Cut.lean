/-
Where a window is cut.

The bytes that a window reaches over may end inside a character.  From there the end is moved
back, byte by byte, until it comes to a boundary: `StepBack` is one such move, and nothing in
it compares the end with the start of the window.  It need not, because the start is a boundary
itself, so the moves stop there at the latest (`StepsBack.le`).  What is left is the longest
part of the source that fits (`Window.longest_windowAt`).

A character has at most four bytes, so the moves are three at most
(`Utf8.le_floorBoundary_add_three`).  A window that does not reach the end of its source has
27 bytes or more, and at a marker the whole marker is in it.
-/
import KernelJit.Proofs.Text.Near
import Mathlib.Logic.Relation

namespace KernelJit
namespace Utf8

/-! ## Stepping back -/

/-- One move of an end: from a position inside a character to the one before. -/
def StepBack (bytes : List UInt8) (i j : Nat) : Prop :=
  isBoundary bytes i = false ∧ i = j + 1

/-- Any number of moves. -/
def StepsBack (bytes : List UInt8) : Nat → Nat → Prop :=
  Relation.ReflTransGen (StepBack bytes)

variable {bytes : List UInt8} {start i j : Nat}

theorem floorBoundary_of_isBoundary (h : isBoundary bytes i = true) : floorBoundary bytes i = i :=
  Nat.le_antisymm (floorBoundary_le bytes i) (le_floorBoundary h (Nat.le_refl i))

/-- A move does not pass a boundary, because it does not begin at one. -/
theorem StepBack.le (hstart : isBoundary bytes start = true) (hle : start ≤ i)
    (h : StepBack bytes i j) : start ≤ j := by
  have hne : i ≠ start := by
    intro hsame
    have hinside := h.1
    rw [hsame, hstart] at hinside
    cases hinside
  have hsucc := h.2
  omega

theorem StepsBack.le (hstart : isBoundary bytes start = true) (hle : start ≤ i)
    (h : StepsBack bytes i j) : start ≤ j := by
  induction h with
  | refl => exact hle
  | tail _ hstep ih => exact hstep.le hstart ih

theorem StepBack.floorBoundary_eq (h : StepBack bytes i j) :
    floorBoundary bytes i = floorBoundary bytes j := by
  rw [h.2, floorBoundary, if_neg]
  rw [← h.2, h.1]
  exact Bool.false_ne_true

theorem StepsBack.floorBoundary_eq (h : StepsBack bytes i j) :
    floorBoundary bytes i = floorBoundary bytes j := by
  induction h with
  | refl => rfl
  | tail _ hstep ih => exact ih.trans hstep.floorBoundary_eq

/-- The moves lead to the last boundary. -/
theorem stepsBack_floorBoundary (bytes : List UInt8) (i : Nat) :
    StepsBack bytes i (floorBoundary bytes i) := by
  induction i with
  | zero => exact Relation.ReflTransGen.refl
  | succ i ih =>
    rw [floorBoundary]
    split
    · exact Relation.ReflTransGen.refl
    · next hinside =>
      exact Relation.ReflTransGen.head ⟨Bool.eq_false_iff.mpr hinside, rfl⟩ ih

/-- Wherever the moves have led, they have come to an end or go on. -/
theorem StepsBack.eq_floorBoundary_or_step (h : StepsBack bytes i j) :
    j = floorBoundary bytes i ∨ ∃ k, StepBack bytes j k := by
  cases hj : isBoundary bytes j with
  | true => exact Or.inl ((floorBoundary_of_isBoundary hj).symm.trans h.floorBoundary_eq.symm)
  | false =>
    cases j with
    | zero => cases (isBoundary_zero bytes).symm.trans hj
    | succ k => exact Or.inr ⟨k, hj, rfl⟩

/-- In a text a boundary is three bytes back at most. -/
theorem le_floorBoundary_add_three {text : String} (hi : i ≤ (encode text).length) :
    i ≤ floorBoundary (encode text) i + 3 := by
  obtain ⟨before, after, htext, hfloor⟩ :=
    isBoundary_encode_iff.mp (isBoundary_floorBoundary (encode text) i)
  obtain ⟨cs, rfl⟩ := after.exists_eq_ofList
  cases cs with
  | nil =>
    -- Nothing is behind the boundary, so that the text ends there.
    have hlength : (encode text).length = (encode before).length := by
      rw [htext, String.ofList_nil, String.append_empty]
    omega
  | cons c cs =>
    -- The position is not past the character that begins at the boundary.
    have hnext : isBoundary (encode text) (floorBoundary (encode text) i + c.utf8Size) = true := by
      refine isBoundary_encode_iff.mpr
        ⟨before ++ String.ofList [c], String.ofList cs, ?_, ?_⟩
      · rw [htext, String.append_assoc, ← String.ofList_append]
        rfl
      · rw [encode_append, encode_ofList, List.length_append, List.flatMap_singleton,
          String.length_utf8EncodeChar, hfloor]
    have hinside : i < floorBoundary (encode text) i + c.utf8Size := by
      refine Nat.lt_of_not_le fun hle => ?_
      have hback := le_floorBoundary hnext hle
      have hpos := c.utf8Size_pos
      omega
    have hfour := c.utf8Size_le_four
    omega

end Utf8

/-! ## Windows -/

namespace Window

open Utf8 Search

/-- A part of a source that begins at a byte position, fits into a window, and has every other
such part as its beginning. -/
structure Longest (source : String) (start : Nat) (part : String) : Prop where
  placed : ∃ before after, source = before ++ part ++ after ∧ before.utf8ByteSize = start
  short : part.utf8ByteSize ≤ reach
  longest : ∀ before longer after, source = before ++ longer ++ after →
    before.utf8ByteSize = start → longer.utf8ByteSize ≤ reach → ∃ rest, part = longer ++ rest

variable {source marker : String} {start : Nat}

theorem longest_windowAt (h : isBoundary (encode source) start = true) :
    Longest source start (windowAt source start) := by
  obtain ⟨before, after, hsource, hlength, hstop⟩ := exists_around h
  have hreach := stop_le_add (encode source) start
  refine ⟨⟨before, after, hsource, hlength⟩, by omega, ?_⟩
  intro other longer rest hcut hother hfits
  have hsize := size_le_of_cut hcut hfits
  rw [hother] at hsize
  have hsame : other ++ (longer ++ rest) = before ++ (windowAt source start ++ after) := by
    rw [← String.append_assoc, ← String.append_assoc, ← hcut, ← hsource]
  obtain ⟨_, hbehind⟩ := eq_of_cuts hsame (hother.trans hlength.symm)
  obtain ⟨piece, hpiece, _⟩ := exists_between_cuts hbehind hsize
  exact ⟨piece, hpiece⟩

/-- A window is 27 bytes long unless its source ends before. -/
theorem size_windowAt (h : isBoundary (encode source) start = true) :
    27 ≤ (windowAt source start).utf8ByteSize ∨
      start + (windowAt source start).utf8ByteSize = source.utf8ByteSize := by
  obtain ⟨_, _, _, _, hstop⟩ := exists_around h
  have hback : min (start + reach) (encode source).length ≤ stop (encode source) start + 3 :=
    le_floorBoundary_add_three (Nat.min_le_right _ _)
  have hreach : reach = 30 := rfl
  rcases Nat.le_total (start + reach) (encode source).length with hwithin | hpast
  · rw [Nat.min_eq_left hwithin] at hback
    omega
  · have hend : stop (encode source) start = (encode source).length := by
      rw [stop, Nat.min_eq_right hpast, floorBoundary_of_isBoundary (isBoundary_length _)]
    rw [hstop, hend]
    exact Or.inr (length_encode source)

theorem exists_windowAt_eq_append (hmarker : AsciiToken (encode marker))
    (hsize : marker.utf8ByteSize ≤ reach) (h : OccursAt (encode marker) (encode source) start) :
    ∃ rest, windowAt source start = marker ++ rest := by
  obtain ⟨before, after, hsource, hstart⟩ := hmarker.occursAt_encode_iff.mp h
  have hboundary := (hmarker.isBoundary_of_occursAt h).1
  exact (longest_windowAt hboundary).longest before marker after hsource hstart.symm hsize

/-- Cutting a window is safe, and cuts off no more than it must.  Let a window start at a
boundary.  Its end is moved back from where the reach or the source ends; wherever the moves
have led it is not before the start, and they have come to the end that the window has or can
go on; that end is a boundary within the source.  The window is the longest part of the source
from its start on that fits, and is 27 bytes long unless the source ends before.  A marker of
ASCII bytes that fits is found at a boundary, and the window there begins with all of it. -/
theorem cut_safe_and_longest (source : String) :
    (∀ start, isBoundary (encode source) start = true →
      (∀ i, StepsBack (encode source) (min (start + reach) (encode source).length) i →
        start ≤ i ∧ (i = stop (encode source) start ∨ ∃ j, StepBack (encode source) i j)) ∧
      (StepsBack (encode source) (min (start + reach) (encode source).length)
          (stop (encode source) start) ∧
        isBoundary (encode source) (stop (encode source) start) = true ∧
        start ≤ stop (encode source) start ∧
        stop (encode source) start ≤ (encode source).length) ∧
      (encode (windowAt source start) =
          ((encode source).take (stop (encode source) start)).drop start ∧
        Longest source start (windowAt source start)) ∧
      (27 ≤ (windowAt source start).utf8ByteSize ∨
        start + (windowAt source start).utf8ByteSize = source.utf8ByteSize)) ∧
    ∀ marker start, AsciiToken (encode marker) → marker.utf8ByteSize ≤ reach →
      OccursAt (encode marker) (encode source) start →
        isBoundary (encode source) start = true ∧
          ∃ rest, windowAt source start = marker ++ rest := by
  constructor
  · intro start hstart
    have hclamped : start ≤ min (start + reach) (encode source).length :=
      Nat.le_min.mpr ⟨Nat.le_add_right _ _, le_length_of_isBoundary hstart⟩
    refine ⟨?_, ⟨?_, ?_, ?_, ?_⟩, ⟨?_, ?_⟩, ?_⟩
    · intro i hsteps
      exact ⟨hsteps.le hstart hclamped, hsteps.eq_floorBoundary_or_step⟩
    · exact stepsBack_floorBoundary _ _
    · exact isBoundary_stop _ _
    · exact le_stop hstart
    · exact stop_le_length _ _
    · exact encode_windowAt hstart
    · exact longest_windowAt hstart
    · exact size_windowAt hstart
  · intro marker start hmarker hsize hoccurs
    exact ⟨(hmarker.isBoundary_of_occursAt hoccurs).1,
      exists_windowAt_eq_append hmarker hsize hoccurs⟩

/-- A character of four bytes has its first three within the reach, and the window has 27
bytes. -/
theorem cut_safe_and_longest_straddled :
    let source := "CellType                   😀 AggOp"
    isBoundary (encode source) 0 = true ∧
      (AsciiToken (encode "CellType") ∧ "CellType".utf8ByteSize ≤ reach ∧
        OccursAt (encode "CellType") (encode source) 0) ∧
      Longest source 0 (windowAt source 0) ∧
      (∃ rest, windowAt source 0 = "CellType" ++ rest) ∧
      (windowAt source 0).utf8ByteSize = 27 := by
  intro source
  have hstart : isBoundary (encode source) 0 = true := isBoundary_zero _
  have hmarker : AsciiToken (encode "CellType") := by decide +kernel
  have hsize : "CellType".utf8ByteSize ≤ reach := by decide +kernel
  have hoccurs : OccursAt (encode "CellType") (encode source) 0 := by decide +kernel
  have hlength : (windowAt source 0).utf8ByteSize = 27 := by decide +kernel
  have hsafe := cut_safe_and_longest source
  exact ⟨hstart, ⟨hmarker, hsize, hoccurs⟩, (hsafe.1 0 hstart).2.2.1.2,
    (hsafe.2 "CellType" 0 hmarker hsize hoccurs).2, hlength⟩

end Window
end KernelJit
