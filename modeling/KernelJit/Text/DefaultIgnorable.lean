/-
The characters that are drawn as nothing where they have no effect on their
surroundings.

Joiners, direction marks, variation selectors and tags belong to the class, and so do
four letters: the fillers that keep the place of a missing part of a Hangul syllable.
A reader cannot see any of them, nor how many there are.
-/
import KernelJit.Text.CodeRange

namespace KernelJit
namespace DefaultIgnorable

/-- The code points of the class. -/
def ranges : List CodeRange :=
  [⟨0xAD, 0xAD⟩, ⟨0x34F, 0x34F⟩, ⟨0x61C, 0x61C⟩, ⟨0x115F, 0x1160⟩, ⟨0x17B4, 0x17B5⟩,
   ⟨0x180B, 0x180F⟩, ⟨0x200B, 0x200F⟩, ⟨0x202A, 0x202E⟩, ⟨0x2060, 0x206F⟩,
   ⟨0x3164, 0x3164⟩, ⟨0xFE00, 0xFE0F⟩, ⟨0xFEFF, 0xFEFF⟩, ⟨0xFFA0, 0xFFA0⟩,
   ⟨0xFFF0, 0xFFF8⟩, ⟨0x1BCA0, 0x1BCA3⟩, ⟨0x1D173, 0x1D17A⟩, ⟨0xE0000, 0xE0FFF⟩]

/-- Whether a character belongs to the class. -/
def contains (c : Char) : Bool :=
  CodeRange.covers ranges c.toNat

/-! ## The data -/

theorem ranges_ascend : CodeRange.ascends ranges = true := by decide

theorem size_ranges : CodeRange.size ranges = 4174 := by decide

/-- No character below the soft hyphen belongs to the class. -/
theorem covers_ranges_of_lt {n : Nat} (h : n < 0xAD) : CodeRange.covers ranges n = false := by
  rw [ranges, CodeRange.covers, if_pos h]

end DefaultIgnorable
end KernelJit
