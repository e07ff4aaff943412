/-
What a window shows.

A window is cut back to a boundary between characters, so it can be shorter than the
bytes that it reaches over.  An ASCII byte is a character of its own, so a token of ASCII
bytes stands between two boundaries wherever it occurs in an encoded text
(`isBoundary_of_occursAt`), and cutting back stops at the latest at the token's end.  The
window shows exactly the tokens that the uncut bytes hold (`contains_windowAt_iff`).
-/
import KernelJit.Text.Search
import KernelJit.Text.Window

namespace KernelJit

namespace Utf8

theorem le_toNat_or {mark : UInt8} (hmark : 128 ≤ mark.toNat) (x : UInt8) :
    128 ≤ (x ||| mark).toNat := by
  rw [UInt8.toNat_or]
  exact Nat.le_trans hmark Nat.right_le_or

/-- An ASCII byte that begins a character is all of it. -/
theorem rest_eq_nil_of_ascii {c : Char} {first : UInt8} {rest : List UInt8}
    (h : String.utf8EncodeChar c = first :: rest) (hascii : first.toNat < 128) : rest = [] := by
  rcases c.utf8Size_eq with hsize | hsize | hsize | hsize
  · rw [String.utf8EncodeChar_eq_singleton hsize] at h
    exact (List.cons.inj h).2.symm
  · rw [String.utf8EncodeChar_eq_cons_cons hsize] at h
    have hfirst := @le_toNat_or 192 (by decide) ((c.val >>> 6).toUInt8 &&& 31)
    rw [(List.cons.inj h).1] at hfirst
    omega
  · rw [String.utf8EncodeChar_eq_cons_cons_cons hsize] at h
    have hfirst := @le_toNat_or 224 (by decide) ((c.val >>> 12).toUInt8 &&& 15)
    rw [(List.cons.inj h).1] at hfirst
    omega
  · rw [String.utf8EncodeChar_eq_cons_cons_cons_cons hsize] at h
    have hfirst := @le_toNat_or 240 (by decide) ((c.val >>> 18).toUInt8 &&& 7)
    rw [(List.cons.inj h).1] at hfirst
    omega

variable {text : String} {i : Nat} {byte : UInt8}

theorem isBoundary_of_ascii (hbyte : (encode text)[i]? = some byte) (hascii : byte.toNat < 128) :
    isBoundary (encode text) i = true := by
  by_cases hi : i = 0
  · rw [hi]
    exact isBoundary_zero _
  · rw [isBoundary_of_getElem? hi hbyte, isContinuation_of_lt hascii]
    rfl

/-- After an ASCII byte of a text the next character begins, or the text ends. -/
theorem isBoundary_succ_of_ascii (hbyte : (encode text)[i]? = some byte)
    (hascii : byte.toNat < 128) : isBoundary (encode text) (i + 1) = true := by
  obtain ⟨before, after, rfl, rfl⟩ :=
    isBoundary_encode_iff.mp (isBoundary_of_ascii hbyte hascii)
  obtain ⟨cs, rfl⟩ := after.exists_eq_ofList
  rw [encode_append, List.getElem?_append_right (Nat.le_refl _), Nat.sub_self,
    encode_ofList] at hbyte
  cases cs with
  | nil => simp at hbyte
  | cons c cs =>
    obtain ⟨first, rest, hc, _, _⟩ := utf8EncodeChar_shape c
    rw [List.flatMap_cons, hc, List.cons_append, List.getElem?_cons_zero] at hbyte
    obtain rfl := Option.some.inj hbyte
    have hrest := rest_eq_nil_of_ascii hc hascii
    rw [isBoundary_encode_iff]
    refine ⟨before ++ String.ofList [c], String.ofList cs, ?_, ?_⟩
    · rw [String.append_assoc, ← String.ofList_append]
      rfl
    · rw [encode_append, encode_ofList, List.length_append, List.flatMap_singleton, hc, hrest]
      rfl

end Utf8

namespace Search

variable {needle bytes : List UInt8} {start stop i k : Nat}

/-- What occurs in a part of a list occurs in the list, within the bounds of the part. -/
theorem occursAt_slice_iff (hstart : start ≤ stop) (hstop : stop ≤ bytes.length) :
    OccursAt needle ((bytes.take stop).drop start) k ↔
      OccursAt needle bytes (start + k) ∧ start + k + needle.length ≤ stop := by
  unfold OccursAt
  rw [List.length_drop, List.length_take, List.drop_drop, List.drop_take, List.prefix_take_iff,
    Nat.min_eq_left hstop]
  constructor
  · rintro ⟨hk, hneedle, hlength⟩
    exact ⟨⟨by omega, hneedle⟩, by omega⟩
  · rintro ⟨⟨_, hneedle⟩, hlength⟩
    exact ⟨by omega, hneedle, by omega⟩

end Search

/-- A token of ASCII bytes, at least one. -/
def AsciiToken (token : List UInt8) : Prop :=
  token ≠ [] ∧ ∀ byte ∈ token, byte.toNat < 128

instance (token : List UInt8) : Decidable (AsciiToken token) :=
  inferInstanceAs (Decidable (_ ∧ _))

namespace AsciiToken

open Search Utf8

variable {text : String} {token : List UInt8} {start i : Nat}

/-- A token of ASCII bytes begins and ends between characters. -/
theorem isBoundary_of_occursAt (htoken : AsciiToken token) (h : OccursAt token (encode text) i) :
    isBoundary (encode text) i = true ∧ isBoundary (encode text) (i + token.length) = true := by
  obtain ⟨hne, hascii⟩ := htoken
  have hpos := List.length_pos_iff.mpr hne
  obtain ⟨rest, hrest⟩ := h.2
  have hbyte : ∀ k, (hk : k < token.length) → (encode text)[i + k]? = some token[k] := by
    intro k hk
    rw [← List.getElem?_drop, ← hrest, List.getElem?_append_left hk, List.getElem?_eq_getElem hk]
  constructor
  · exact isBoundary_of_ascii (hbyte 0 hpos) (hascii _ (List.getElem_mem hpos))
  · have hlast : token.length - 1 < token.length := by omega
    have hend := isBoundary_succ_of_ascii (hbyte _ hlast) (hascii _ (List.getElem_mem hlast))
    rw [show i + token.length = i + (token.length - 1) + 1 by omega]
    exact hend

/-- A window shows a token of ASCII bytes exactly if the token stands within the bytes that
the window reaches over, wherever it is cut. -/
theorem contains_windowAt_iff (htoken : AsciiToken token)
    (hstart : isBoundary (encode text) start = true) :
    Search.contains (encode (Window.windowAt text start)) token = true ↔
      ∃ i, start ≤ i ∧ i + token.length ≤ min (start + Window.reach) (encode text).length ∧
        OccursAt token (encode text) i := by
  have hle := Window.le_stop hstart
  have hlength := Window.stop_le_length (encode text) start
  have hreach := Window.stop_le_add (encode text) start
  rw [Search.contains_iff, Window.encode_windowAt hstart, Window.bytesAt]
  constructor
  · rintro ⟨k, hk⟩
    obtain ⟨hoccurs, hend⟩ := (occursAt_slice_iff hle hlength).mp hk
    exact ⟨start + k, Nat.le_add_right _ _, by omega, hoccurs⟩
  · rintro ⟨i, hi, hend, hoccurs⟩
    -- The token's end is a boundary, so that cutting back does not pass it.
    have hcut : i + token.length ≤ Window.stop (encode text) start :=
      le_floorBoundary (htoken.isBoundary_of_occursAt hoccurs).2 hend
    have hshift : start + (i - start) = i := by omega
    refine ⟨i - start, (occursAt_slice_iff hle hlength).mpr ?_⟩
    rw [hshift]
    exact ⟨hoccurs, hcut⟩

end AsciiToken
end KernelJit
