/-
The fingerprint of a request: what a compiled program is cached under.

A fingerprint is the digest of a byte list, the preimage, that holds the source,
the variant and the include flags of a request.  The kernel's name and the device
are left out.  Each text is preceded by its length and the variant has a fixed
width, so the fields can be told apart.
-/
import KernelJit.Request
import KernelJit.Text.Utf8
import KernelJit.Text.Hex
import KernelJit.Digest.Sha256

namespace KernelJit

/-- A 32-byte digest of a request. -/
structure Fingerprint where
  bytes : Vector UInt8 32
deriving DecidableEq

namespace Fingerprint

/-- The `width` low bytes of a number, the least significant first. -/
def littleEndian : Nat → Nat → List UInt8
  | 0, _ => []
  | width + 1, n => UInt8.ofNat n :: littleEndian width (n / 256)

/-- A text after its length in bytes. -/
def field (text : String) : List UInt8 :=
  littleEndian 8 (Utf8.encode text).length ++ Utf8.encode text

/-- The bytes that a request is known by. -/
def preimage (request : Request) : List UInt8 :=
  field request.source ++ littleEndian 4 request.variant.toNat ++
    request.includeFlags.flatMap field

/-- The fingerprint of a request. -/
def ofRequest (request : Request) : Fingerprint :=
  ⟨Sha256.digest (preimage request)⟩

/-- The fingerprint with the given bytes, if there are 32 of them. -/
def ofList? (bytes : List UInt8) : Option Fingerprint :=
  if h : bytes.length = 32 then some ⟨⟨bytes.toArray, h⟩⟩ else none

/-- All 64 hexadecimal digits. -/
def hex (fingerprint : Fingerprint) : String :=
  Hex.ofBytes fingerprint.bytes.toList

/-- The first twelve hexadecimal digits, by which log records name a program. -/
def shortHex (fingerprint : Fingerprint) : String :=
  Hex.ofBytes (fingerprint.bytes.toList.take 6)

theorem length_littleEndian (width n : Nat) : (littleEndian width n).length = width := by
  induction width generalizing n with
  | zero => rfl
  | succ width ih => rw [littleEndian, List.length_cons, ih]

end Fingerprint

end KernelJit
