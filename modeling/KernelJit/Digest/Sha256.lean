/-
SHA-256: the 32-byte digest of a byte list.

The message is padded to whole blocks of 64 bytes; each block is expanded to 64
words, and the rounds that consume them turn the hash of the blocks before it
into the hash of the blocks up to it.  Everything recurses on a list or on a
count, so the kernel reduces a digest of a concrete message.
-/
namespace KernelJit
namespace Sha256

/-- The eight words that are carried from round to round and from block to block. -/
structure Registers where
  a : UInt32
  b : UInt32
  c : UInt32
  d : UInt32
  e : UInt32
  f : UInt32
  g : UInt32
  h : UInt32

/-- The hash of no blocks: the fractional parts of the square roots of the first
eight primes. -/
def Registers.start : Registers :=
  { a := 0x6a09e667, b := 0xbb67ae85, c := 0x3c6ef372, d := 0xa54ff53a,
    e := 0x510e527f, f := 0x9b05688c, g := 0x1f83d9ab, h := 0x5be0cd19 }

/-- The round constants: the fractional parts of the cube roots of the first
sixty-four primes. -/
def constants : List UInt32 :=
  [0x428a2f98, 0x71374491, 0xb5c0fbcf, 0xe9b5dba5, 0x3956c25b, 0x59f111f1, 0x923f82a4, 0xab1c5ed5,
   0xd807aa98, 0x12835b01, 0x243185be, 0x550c7dc3, 0x72be5d74, 0x80deb1fe, 0x9bdc06a7, 0xc19bf174,
   0xe49b69c1, 0xefbe4786, 0x0fc19dc6, 0x240ca1cc, 0x2de92c6f, 0x4a7484aa, 0x5cb0a9dc, 0x76f988da,
   0x983e5152, 0xa831c66d, 0xb00327c8, 0xbf597fc7, 0xc6e00bf3, 0xd5a79147, 0x06ca6351, 0x14292967,
   0x27b70a85, 0x2e1b2138, 0x4d2c6dfc, 0x53380d13, 0x650a7354, 0x766a0abb, 0x81c2c92e, 0x92722c85,
   0xa2bfe8a1, 0xa81a664b, 0xc24b8b70, 0xc76c51a3, 0xd192e819, 0xd6990624, 0xf40e3585, 0x106aa070,
   0x19a4c116, 0x1e376c08, 0x2748774c, 0x34b0bcb5, 0x391c0cb3, 0x4ed8aa4a, 0x5b9cca4f, 0x682e6ff3,
   0x748f82ee, 0x78a5636f, 0x84c87814, 0x8cc70208, 0x90befffa, 0xa4506ceb, 0xbef9a3f7, 0xc67178f2]

/-! ## Words -/

/-- Rotation to the right by `n` bits, for `n` from 1 to 31. -/
def rotate (x n : UInt32) : UInt32 :=
  (x >>> n) ||| (x <<< (32 - n))

/-- The four bytes of a word, the most significant first. -/
def bytesOfWord (w : UInt32) : List UInt8 :=
  [(w >>> 24).toUInt8, (w >>> 16).toUInt8, (w >>> 8).toUInt8, w.toUInt8]

/-- The words of a byte list, four bytes each, the most significant first. -/
def wordsOfBytes : List UInt8 → List UInt32
  | a :: b :: c :: d :: rest =>
    ((a.toUInt32 <<< 24) ||| (b.toUInt32 <<< 16) ||| (c.toUInt32 <<< 8) ||| d.toUInt32) ::
      wordsOfBytes rest
  | _ => []

/-! ## One block -/

/-- Put `n` further words before the words made so far, the newest first.  A new
word depends on those made 2, 7, 15 and 16 words earlier. -/
def extend : Nat → List UInt32 → List UInt32
  | 0, words => words
  | n + 1, words =>
    let near := words.getD 1 0
    let far := words.getD 14 0
    let new := (rotate near 17 ^^^ rotate near 19 ^^^ (near >>> 10)) + words.getD 6 0 +
      (rotate far 7 ^^^ rotate far 18 ^^^ (far >>> 3)) + words.getD 15 0
    extend n (new :: words)

/-- The 64 words of a block. -/
def schedule (block : List UInt8) : List UInt32 :=
  (extend 48 (wordsOfBytes block).reverse).reverse

namespace Registers

/-- One round, given the sum of its constant and its word. -/
def round (r : Registers) (input : UInt32) : Registers :=
  let first := r.h + (rotate r.e 6 ^^^ rotate r.e 11 ^^^ rotate r.e 25) +
    ((r.e &&& r.f) ^^^ (~~~r.e &&& r.g)) + input
  let second := (rotate r.a 2 ^^^ rotate r.a 13 ^^^ rotate r.a 22) +
    ((r.a &&& r.b) ^^^ (r.a &&& r.c) ^^^ (r.b &&& r.c))
  { a := first + second, b := r.a, c := r.b, d := r.c,
    e := r.d + first, f := r.e, g := r.f, h := r.g }

/-- Word by word sum. -/
def add (r s : Registers) : Registers :=
  { a := r.a + s.a, b := r.b + s.b, c := r.c + s.c, d := r.d + s.d,
    e := r.e + s.e, f := r.f + s.f, g := r.g + s.g, h := r.h + s.h }

/-- The hash after one more block. -/
def compress (r : Registers) (block : List UInt8) : Registers :=
  r.add ((List.zipWith (· + ·) constants (schedule block)).foldl round r)

/-- The hash after `n` more blocks, taken from the front of `bytes`. -/
def compressBlocks : Nat → List UInt8 → Registers → Registers
  | 0, _, r => r
  | n + 1, bytes, r => compressBlocks n (bytes.drop 64) (r.compress (bytes.take 64))

/-- The bytes of the eight words. -/
def bytes (r : Registers) : List UInt8 :=
  bytesOfWord r.a ++ bytesOfWord r.b ++ bytesOfWord r.c ++ bytesOfWord r.d ++
    bytesOfWord r.e ++ bytesOfWord r.f ++ bytesOfWord r.g ++ bytesOfWord r.h

theorem length_bytes (r : Registers) : r.bytes.length = 32 := rfl

end Registers

/-! ## Whole messages -/

/-- The message followed by a single one bit, as many zero bits as complete the
last block, and the length of the message in bits as a 64-bit number. -/
def pad (message : List UInt8) : List UInt8 :=
  let bits := UInt64.ofNat (8 * message.length)
  message ++ [(0x80 : UInt8)] ++ List.replicate ((119 - message.length % 64) % 64) (0 : UInt8) ++
    bytesOfWord (bits >>> 32).toUInt32 ++ bytesOfWord bits.toUInt32

/-- The padded message is a whole number of blocks. -/
theorem length_pad (message : List UInt8) : (pad message).length % 64 = 0 := by
  simp only [pad, List.length_append, List.length_cons, List.length_replicate, bytesOfWord,
    List.length_nil]
  omega

/-- The digest of a message. -/
def digest (message : List UInt8) : Vector UInt8 32 :=
  let padded := pad message
  let hash := Registers.start.compressBlocks (padded.length / 64) padded
  ⟨hash.bytes.toArray, hash.length_bytes⟩

end Sha256
end KernelJit
