/-
Handles: the numbers by which foreign callers hold contexts.

A handle is a 64-bit number.  Its high half is a generation and its low half a
slot index plus one, so that the number zero, the null handle, is never issued.
Callers may present any number at all; `parts?` reads a number back, and refuses
those whose low half is zero.
-/
namespace KernelJit

/-- A number that may name a context. -/
abbrev Handle := UInt64

namespace Handle

/-- The handle that names nothing. -/
def null : Handle := 0

/-- The handle of a slot in one of its generations. -/
def pack (index generation : UInt32) : Handle :=
  (generation.toUInt64 <<< 32) ||| (index.toUInt64 + 1)

/-- The slot index and the generation that a handle names. -/
def parts? (handle : Handle) : Option (Nat × UInt32) :=
  let low := handle.toUInt32
  if low = 0 then none else some ((low - 1).toNat, (handle >>> 32).toUInt32)

/-- The two halves of a packed handle, for an index below the last one. -/
theorem toNat_pack {index : UInt32} (h : index.toNat + 1 < 0x100000000) (generation : UInt32) :
    (pack index generation).toNat = generation.toNat * 0x100000000 + (index.toNat + 1) := by
  have hg := generation.toNat_lt
  have hlow : (index.toUInt64 + 1).toNat = index.toNat + 1 := by
    simp only [UInt64.toNat_add, UInt32.toNat_toUInt64, UInt64.toNat_one]
    omega
  have hhigh : (generation.toUInt64 <<< 32).toNat = generation.toNat <<< 32 := by
    simp only [UInt64.toNat_shiftLeft, UInt32.toNat_toUInt64, UInt64.reduceToNat, Nat.reduceMod,
      Nat.shiftLeft_eq]
    omega
  rw [pack, UInt64.toNat_or, hlow, hhigh, ← Nat.shiftLeft_add_eq_or_of_lt h, Nat.shiftLeft_eq]

/-- A packed handle is read back. -/
theorem parts?_pack {index : UInt32} (h : index.toNat + 1 < 0x100000000) (generation : UInt32) :
    parts? (pack index generation) = some (index.toNat, generation) := by
  have hg := generation.toNat_lt
  have hpack := toNat_pack h generation
  have hlow : (pack index generation).toUInt32 = index + 1 := by
    rw [← UInt32.toNat_inj, UInt64.toNat_toUInt32, hpack, UInt32.toNat_add]
    simp only [UInt32.toNat_one]
    omega
  have hhigh : (pack index generation >>> 32).toUInt32 = generation := by
    rw [← UInt32.toNat_inj, UInt64.toNat_toUInt32, UInt64.toNat_shiftRight, hpack,
      Nat.shiftRight_eq_div_pow]
    simp
    omega
  have hne : index + 1 ≠ 0 := by
    rw [Ne, ← UInt32.toNat_inj, UInt32.toNat_add]
    simp
    omega
  rw [parts?, hlow, hhigh]
  simp [hne]

end Handle

end KernelJit
