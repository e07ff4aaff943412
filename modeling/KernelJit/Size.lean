/-
Sizes in bytes, as 64-bit numbers that stop at the ends of their range.

A budget may be given in megabytes that no 64-bit number of bytes holds, and a
sum of sizes may exceed the range.  `add` and `mul` then answer the largest size
and `sub` the smallest; each is the exact result, cut at the end of the range.
-/
namespace KernelJit

/-- A number of bytes. -/
abbrev Size := UInt64

namespace Size

/-- The size nearest to a number of bytes. -/
def ofNat (n : Nat) : Size :=
  UInt64.ofNat (min n 0xFFFFFFFFFFFFFFFF)

/-- The sum, at most the largest size. -/
def add (a b : Size) : Size :=
  ofNat (a.toNat + b.toNat)

/-- The difference, at least zero. -/
def sub (a b : Size) : Size :=
  ofNat (a.toNat - b.toNat)

/-- The product, at most the largest size. -/
def mul (a b : Size) : Size :=
  ofNat (a.toNat * b.toNat)

theorem toNat_ofNat (n : Nat) : (ofNat n).toNat = min n 0xFFFFFFFFFFFFFFFF := by
  rw [ofNat, UInt64.toNat_ofNat']
  exact Nat.mod_eq_of_lt (by omega)

theorem toNat_add (a b : Size) : (add a b).toNat = min (a.toNat + b.toNat) 0xFFFFFFFFFFFFFFFF :=
  toNat_ofNat _

theorem toNat_sub (a b : Size) : (sub a b).toNat = a.toNat - b.toNat := by
  have := a.toNat_lt
  rw [sub, toNat_ofNat]
  omega

theorem toNat_mul (a b : Size) : (mul a b).toNat = min (a.toNat * b.toNat) 0xFFFFFFFFFFFFFFFF :=
  toNat_ofNat _

end Size

end KernelJit
