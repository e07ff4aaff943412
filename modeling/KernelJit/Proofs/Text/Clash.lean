/-
Where a token cannot stand, whatever text follows.

A text that begins with known words goes on in ways that are not known.  A token that begins among
the known bytes may end behind them, so that all one can ask for is that the bytes which both have
do not agree: then the token clashes with the words (`not_occursAt_of_clashes`).  Clashes are
decided on the words alone.  They rule a token out near a marker
(`Near.not_occurs_of_clashes`), and they rule out that a marker begins in a text which does not
contain it and ends in the words behind (`startsPast_of_not_occurs`).
-/
import KernelJit.Proofs.Text.Locality
import Mathlib.Data.List.Infix

namespace KernelJit

open Search Utf8

/-- From a position on, a token and known bytes differ before either of them ends. -/
def Clashes (token head : List UInt8) (i : Nat) : Prop :=
  ¬token <+: head.drop i ∧ ¬head.drop i <+: token

instance (token head : List UInt8) (i : Nat) : Decidable (Clashes token head i) :=
  inferInstanceAs (Decidable (_ ∧ _))

theorem not_occursAt_of_clashes {token head : List UInt8} {i : Nat} (h : Clashes token head i)
    (tail : List UInt8) : ¬OccursAt token (head ++ tail) i := by
  rintro ⟨_, htoken⟩
  obtain ⟨hshorter, hlonger⟩ := h
  have hi : i ≤ head.length := by
    refine Nat.le_of_not_lt fun hlt => hlonger ?_
    rw [List.drop_eq_nil_of_le (Nat.le_of_lt hlt)]
    exact List.nil_prefix
  rw [List.drop_append_of_le_length hi] at htoken
  rcases List.prefix_or_prefix_of_prefix htoken (List.prefix_append _ tail) with hends | hgoes
  · exact hshorter hends
  · exact hlonger hgoes

variable {marker part near ahead head tail source : String}

/-! ## Near a marker -/

theorem exists_near_start (hmarker : AsciiToken (encode marker)) (hsize : marker.utf8ByteSize ≤ 30)
    {rest : String} (hsource : source = marker ++ rest) : ∃ near, Near marker source "" near := by
  have hstart : source = "" ++ marker ++ rest := by rw [String.empty_append, hsource]
  obtain ⟨before, near, hnear⟩ := exists_near hmarker hsize ⟨"", rest, hstart⟩
  have hbefore : before = "" :=
    String.utf8ByteSize_eq_zero_iff.mp (Nat.le_zero.mp (hnear.first "" rest hstart))
  exact ⟨near, hbefore ▸ hnear⟩

/-- What clashes with the first words of a source, and begins too late in the rest of it, does not
stand near a marker at its start. -/
theorem Near.not_occurs_of_clashes (h : Near marker (head ++ tail) "" near)
    (hpart : AsciiToken (encode part))
    (hhead : ∀ i, i < head.utf8ByteSize → i + part.utf8ByteSize ≤ 30 →
      Clashes (encode part) (encode head) i)
    (htail : ∀ between after, tail = between ++ part ++ after →
      30 < head.utf8ByteSize + between.utf8ByteSize + part.utf8ByteSize) : ¬Occurs part near := by
  intro hoccurs
  obtain ⟨between, after, hcut, hsize⟩ := h.occurs_iff.mp hoccurs
  rw [String.empty_append] at hcut
  rcases Nat.lt_or_ge between.utf8ByteSize head.utf8ByteSize with hlt | hge
  · refine not_occursAt_of_clashes (hhead _ hlt hsize) (encode tail) ?_
    rw [← encode_append]
    exact hpart.occursAt_encode_iff.mpr ⟨between, after, hcut, rfl⟩
  · rw [String.append_assoc] at hcut
    obtain ⟨piece, rfl, hpiece⟩ := exists_between_cuts hcut hge
    have hlate := htail piece after (by rw [hpiece, String.append_assoc])
    rw [String.utf8ByteSize_append] at hsize
    omega

/-! ## Where a marker begins -/

theorem startsPast_of_clashes (hmarker : AsciiToken (encode marker))
    (h : ∀ i, i < ahead.utf8ByteSize → Clashes (encode marker) (encode (ahead ++ head)) i)
    (tail : String) : StartsPast marker ahead (head ++ tail) := by
  rw [startsPast_iff hmarker, ← String.append_assoc, encode_append]
  exact fun i hi => not_occursAt_of_clashes (h i hi) (encode tail)

/-- A marker that does not occur in a text does not begin there either, if no end of it agrees
with the words that follow. -/
theorem startsPast_of_not_occurs (hmarker : AsciiToken (encode marker))
    (hahead : ¬Occurs marker ahead)
    (hhead : ∀ k, k < marker.utf8ByteSize → 0 < k →
      Clashes ((encode marker).drop k) (encode head) 0)
    (tail : String) : StartsPast marker ahead (head ++ tail) := by
  rw [startsPast_iff hmarker]
  rintro i hi ⟨_, hoccurs⟩
  rw [← length_encode] at hi
  rw [encode_append] at hoccurs
  by_cases hend : i + (encode marker).length ≤ (encode ahead).length
  · -- The marker ends within the text, so that it occurs there.
    refine hahead (hmarker.contains_encode_iff.mp (contains_iff.mpr ⟨i, Nat.le_of_lt hi, ?_⟩))
    rw [List.drop_append_of_le_length (Nat.le_of_lt hi)] at hoccurs
    refine List.prefix_of_prefix_length_le hoccurs (List.prefix_append _ _) ?_
    rw [List.length_drop]
    omega
  · -- The rest of the marker stands at the start of the words.
    have hrest := List.IsPrefix.drop hoccurs ((encode ahead).length - i)
    rw [List.drop_drop, Nat.add_sub_cancel' (Nat.le_of_lt hi), List.drop_left,
      encode_append] at hrest
    refine not_occursAt_of_clashes (hhead _ ?_ (Nat.sub_pos_of_lt hi)) (encode tail)
      (occursAt_zero.mpr hrest)
    rw [← length_encode]
    omega

end KernelJit
