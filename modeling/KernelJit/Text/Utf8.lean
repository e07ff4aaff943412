/-
The bytes of a text, and the text of a byte list.

Every length, position and window of a kernel source is counted in bytes of its
UTF-8 encoding, so the encoding is taken out as a plain list on which searching
and cutting are ordinary list operations.  `decode?` is the way back: it accepts
exactly the byte lists that are the encoding of some text, and then returns that
text (`decode?_eq_some_iff`).
-/
namespace KernelJit
namespace Utf8

/-- The UTF-8 encoding of a text. -/
def encode (text : String) : List UInt8 :=
  text.toByteArray.data.toList

/-- The text whose encoding is `bytes`, if there is one. -/
def decode? (bytes : List UInt8) : Option String :=
  String.fromUTF8? ⟨⟨bytes⟩⟩

/-- A text is read back from its encoding. -/
theorem decode?_encode (text : String) : decode? (encode text) = some text := by
  have h : (ByteArray.mk ⟨encode text⟩).IsValidUTF8 := text.isValidUTF8
  rw [decode?, String.fromUTF8?, dif_pos h]
  rfl

/-- What is read has the bytes it was read from. -/
theorem encode_of_decode? {bytes : List UInt8} {text : String}
    (h : decode? bytes = some text) : encode text = bytes := by
  rw [decode?, String.fromUTF8?] at h
  split at h
  · rw [← Option.some.inj h]
    rfl
  · exact absurd h (by simp)

/-- Reading accepts exactly the encodings. -/
theorem decode?_eq_some_iff {bytes : List UInt8} {text : String} :
    decode? bytes = some text ↔ bytes = encode text :=
  ⟨fun h => (encode_of_decode? h).symm, fun h => h ▸ decode?_encode text⟩

/-- Different texts have different encodings. -/
theorem encode_injective {a b : String} (h : encode a = encode b) : a = b := by
  have hb := decode?_encode b
  rw [← h, decode?_encode a] at hb
  exact Option.some.inj hb

/-- The length of the encoding is the byte size of the text. -/
theorem length_encode (text : String) : (encode text).length = text.utf8ByteSize := rfl

/-- Encoding a concatenation concatenates the encodings. -/
theorem encode_append (a b : String) : encode (a ++ b) = encode a ++ encode b := by
  simp [encode, String.toByteArray_append]

/-- The encoding of a text is made up of the encodings of its characters. -/
theorem encode_ofList (cs : List Char) :
    encode (String.ofList cs) = cs.flatMap String.utf8EncodeChar := by
  simp [encode, List.utf8Encode]

/-- The order of texts by their bytes. -/
def precedes (a b : String) : Bool :=
  encode a < encode b

end Utf8
end KernelJit
