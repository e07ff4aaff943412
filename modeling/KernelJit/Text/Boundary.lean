/-
Character boundaries in an encoded text.

A byte that does not begin a character is a continuation byte, which its two high
bits tell.  `isBoundary` looks at one byte only; `isBoundary_encode_iff` says that
in the encoding of a text it holds exactly at the ends of the encodings of the
text's initial parts.  `floorBoundary` steps back from a position to the last
boundary at or before it, and the start of the text is one, so it always arrives.
-/
import KernelJit.Text.Utf8

namespace KernelJit
namespace Utf8

/-- A byte that continues a character: its two high bits are `10`. -/
def isContinuation (byte : UInt8) : Bool :=
  byte &&& 0xC0 == 0x80

/-- Position `i` of an encoded text lies between two characters: it is the start
or the end of the text, or the byte there begins a character. -/
def isBoundary (bytes : List UInt8) (i : Nat) : Bool :=
  i == 0 ||
    match bytes[i]? with
    | some byte => !isContinuation byte
    | none => i == bytes.length

/-- The last boundary at or before position `i`, found by stepping back. -/
def floorBoundary (bytes : List UInt8) : Nat → Nat
  | 0 => 0
  | i + 1 => if isBoundary bytes (i + 1) then i + 1 else floorBoundary bytes i

/-! ## Stepping back -/

theorem isBoundary_zero (bytes : List UInt8) : isBoundary bytes 0 = true := rfl

theorem isBoundary_length (bytes : List UInt8) : isBoundary bytes bytes.length = true := by
  simp [isBoundary]

/-- A boundary lies within the text. -/
theorem le_length_of_isBoundary {bytes : List UInt8} {i : Nat} (h : isBoundary bytes i = true) :
    i ≤ bytes.length := by
  rcases Nat.lt_or_ge bytes.length i with hlt | hle
  · rw [isBoundary, List.getElem?_eq_none (Nat.le_of_lt hlt)] at h
    simp only [Bool.or_eq_true, beq_iff_eq] at h
    omega
  · exact hle

/-- A boundary within the first part of a text is a boundary of that part. -/
theorem isBoundary_of_append {a b : List UInt8} {i : Nat} (h : isBoundary (a ++ b) i = true)
    (hi : i ≤ a.length) : isBoundary a i = true := by
  rcases Nat.lt_or_eq_of_le hi with hlt | heq
  · rw [isBoundary, List.getElem?_append_left hlt, List.getElem?_eq_getElem hlt] at h
    rw [isBoundary, List.getElem?_eq_getElem hlt]
    exact h
  · rw [heq]
    exact isBoundary_length a

/-- Past the start of the text, the byte at a position decides. -/
theorem isBoundary_of_getElem? {bytes : List UInt8} {i : Nat} {byte : UInt8} (hi : i ≠ 0)
    (h : bytes[i]? = some byte) : isBoundary bytes i = !isContinuation byte := by
  simp [isBoundary, h, hi]

theorem floorBoundary_le (bytes : List UInt8) (i : Nat) : floorBoundary bytes i ≤ i := by
  induction i with
  | zero => exact Nat.le_refl 0
  | succ i ih =>
    rw [floorBoundary]
    split
    · exact Nat.le_refl _
    · exact Nat.le_succ_of_le ih

theorem isBoundary_floorBoundary (bytes : List UInt8) (i : Nat) :
    isBoundary bytes (floorBoundary bytes i) = true := by
  induction i with
  | zero => rfl
  | succ i ih =>
    rw [floorBoundary]
    split
    · assumption
    · exact ih

/-- Stepping back passes no boundary. -/
theorem le_floorBoundary {bytes : List UInt8} {i j : Nat} (hj : isBoundary bytes j = true)
    (hle : j ≤ i) : j ≤ floorBoundary bytes i := by
  induction i with
  | zero => exact hle
  | succ i ih =>
    rw [floorBoundary]
    split
    · exact hle
    · next hi =>
      refine ih (Nat.le_of_lt_succ (Nat.lt_of_le_of_ne hle fun e => hi ?_))
      subst e
      exact hj

/-! ## Boundaries of an encoded text -/

theorem isContinuation_iff_toBitVec (byte : UInt8) :
    isContinuation byte = (byte.toBitVec &&& 0xC0#8 == 0x80#8) := by
  rw [isContinuation, Bool.eq_iff_iff, beq_iff_eq, beq_iff_eq, ← UInt8.toBitVec_inj]
  rfl

/-- Six bits under the mark `10` continue a character. -/
theorem isContinuation_low_bits (x : UInt8) : isContinuation (x &&& 0x3f ||| 0x80) = true := by
  have h : ∀ v : BitVec 8, ((v &&& 0x3f#8 ||| 0x80#8) &&& 0xC0#8 == 0x80#8) = true := by decide
  rw [isContinuation_iff_toBitVec]
  exact h x.toBitVec

/-- A byte below 128 begins a character. -/
theorem isContinuation_of_lt {x : UInt8} (hx : x.toNat < 128) : isContinuation x = false := by
  have h : ∀ v : BitVec 8, v < 128#8 → (v &&& 0xC0#8 == 0x80#8) = false := by decide
  rw [isContinuation_iff_toBitVec]
  exact h x.toBitVec hx

/-- The marks `110`, `1110` and `11110` begin a character. -/
theorem isContinuation_high_bits (x : UInt8) :
    isContinuation (x &&& 0x1f ||| 0xc0) = false ∧ isContinuation (x &&& 0x0f ||| 0xe0) = false ∧
      isContinuation (x &&& 0x07 ||| 0xf0) = false := by
  have h : ∀ v : BitVec 8, ((v &&& 0x1f#8 ||| 0xc0#8) &&& 0xC0#8 == 0x80#8) = false ∧
      ((v &&& 0x0f#8 ||| 0xe0#8) &&& 0xC0#8 == 0x80#8) = false ∧
      ((v &&& 0x07#8 ||| 0xf0#8) &&& 0xC0#8 == 0x80#8) = false := by decide
  simp only [isContinuation_iff_toBitVec]
  exact h x.toBitVec

/-- A character is encoded by a byte that begins it and bytes that continue it. -/
theorem utf8EncodeChar_shape (c : Char) : ∃ first rest,
    String.utf8EncodeChar c = first :: rest ∧ isContinuation first = false ∧
      ∀ byte ∈ rest, isContinuation byte = true := by
  rcases c.utf8Size_eq with h | h | h | h
  · refine ⟨_, [], String.utf8EncodeChar_eq_singleton h, ?_, by simp⟩
    apply isContinuation_of_lt
    have hc : c.val.toNat ≤ 127 := by
      simpa [Char.utf8Size_eq_one_iff, UInt32.le_iff_toNat_le] using h
    rw [UInt32.toNat_toUInt8]
    omega
  · refine ⟨_, _, String.utf8EncodeChar_eq_cons_cons h, (isContinuation_high_bits _).1, ?_⟩
    simp [isContinuation_low_bits]
  · refine ⟨_, _, String.utf8EncodeChar_eq_cons_cons_cons h, (isContinuation_high_bits _).2.1, ?_⟩
    simp [isContinuation_low_bits]
  · refine ⟨_, _, String.utf8EncodeChar_eq_cons_cons_cons_cons h,
      (isContinuation_high_bits _).2.2, ?_⟩
    simp [isContinuation_low_bits]

/-- A boundary inside a text splits its characters. -/
theorem exists_take_of_isBoundary {cs : List Char} {i : Nat}
    (h : isBoundary (cs.flatMap String.utf8EncodeChar) i = true) :
    ∃ k, i = ((cs.take k).flatMap String.utf8EncodeChar).length := by
  induction cs generalizing i with
  | nil =>
    refine ⟨0, ?_⟩
    cases i with
    | zero => rfl
    | succ i => simp [isBoundary] at h
  | cons c cs ih =>
    obtain ⟨first, rest, hc, _, hrest⟩ := utf8EncodeChar_shape c
    cases i with
    | zero => exact ⟨0, rfl⟩
    | succ j =>
      rw [List.flatMap_cons, hc] at h
      by_cases hj : j < rest.length
      · have hbyte : (first :: rest ++ cs.flatMap String.utf8EncodeChar)[j + 1]? = some rest[j] := by
          simp [List.getElem?_append_left, hj]
        rw [isBoundary_of_getElem? (Nat.succ_ne_zero j) hbyte,
          hrest rest[j] (List.getElem_mem hj)] at h
        exact absurd h (by simp)
      · obtain ⟨d, rfl⟩ := Nat.le.dest (Nat.le_of_not_lt hj)
        have hd : isBoundary (cs.flatMap String.utf8EncodeChar) d = true := by
          have hget : (first :: rest ++ cs.flatMap String.utf8EncodeChar)[rest.length + d + 1]? =
              (cs.flatMap String.utf8EncodeChar)[d]? := by
            rw [List.getElem?_append_right (by simp)]
            congr 1
            simp
          rw [isBoundary, hget] at h
          rw [isBoundary]
          cases hb : (cs.flatMap String.utf8EncodeChar)[d]? with
          | some byte => simpa [hb] using Or.inr (by simpa [hb] using h)
          | none =>
            have : d = (cs.flatMap String.utf8EncodeChar).length := by
              rw [hb] at h
              simp at h
              simp
              omega
            simp [this]
        obtain ⟨k, hk⟩ := ih hd
        refine ⟨k + 1, ?_⟩
        rw [List.take_succ_cons, List.flatMap_cons, List.length_append, ← hk, hc,
          List.length_cons]
        omega

/-- The boundaries of an encoded text are the ends of the encodings of its initial
parts. -/
theorem isBoundary_encode_iff {text : String} {i : Nat} :
    isBoundary (encode text) i = true ↔
      ∃ before after, text = before ++ after ∧ i = (encode before).length := by
  constructor
  · intro h
    obtain ⟨cs, rfl⟩ := text.exists_eq_ofList
    rw [encode_ofList] at h
    obtain ⟨k, hk⟩ := exists_take_of_isBoundary h
    refine ⟨String.ofList (cs.take k), String.ofList (cs.drop k), ?_, ?_⟩
    · rw [← String.ofList_append, List.take_append_drop]
    · rw [encode_ofList, hk]
  · rintro ⟨before, after, rfl, rfl⟩
    rw [encode_append]
    obtain ⟨cs, rfl⟩ := after.exists_eq_ofList
    rw [isBoundary, List.getElem?_append_right (Nat.le_refl _), Nat.sub_self, encode_ofList]
    cases cs with
    | nil => simp
    | cons c cs =>
      obtain ⟨first, rest, hc, hfirst, _⟩ := utf8EncodeChar_shape c
      simp [hc, hfirst]

/-- What lies between two boundaries is the encoding of a text. -/
theorem exists_slice_eq_encode {text : String} {i j : Nat}
    (hi : isBoundary (encode text) i = true) (hj : isBoundary (encode text) j = true) :
    ∃ part, ((encode text).take j).drop i = encode part := by
  obtain ⟨before, after, rfl, rfl⟩ := isBoundary_encode_iff.mp hj
  rw [encode_append] at hi ⊢
  rw [List.take_left' rfl]
  rcases Nat.lt_or_ge (encode before).length i with hlt | hle
  · exact ⟨"", List.drop_eq_nil_of_le (Nat.le_of_lt hlt)⟩
  · obtain ⟨skipped, part, rfl, rfl⟩ := isBoundary_encode_iff.mp (isBoundary_of_append hi hle)
    refine ⟨part, ?_⟩
    rw [encode_append, List.drop_left' rfl]

end Utf8
end KernelJit
