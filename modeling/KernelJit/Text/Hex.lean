/-
Lower-case hexadecimal: two digits for each byte of a digest, and no leading
zeros for a handle.
-/
namespace KernelJit
namespace Hex

/-- The two digits of a byte, the high one first. -/
def ofByte (byte : UInt8) : List Char :=
  [Nat.digitChar (byte.toNat / 16), Nat.digitChar (byte.toNat % 16)]

/-- The digits of a byte list, two for each byte. -/
def ofBytes (bytes : List UInt8) : String :=
  String.ofList (bytes.flatMap ofByte)

/-- A number after `0x`, without leading zeros. -/
def ofNat (n : Nat) : String :=
  "0x" ++ String.ofList (Nat.toDigits 16 n)

end Hex
end KernelJit
