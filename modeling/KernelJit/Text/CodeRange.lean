/-
Classes of characters as lists of code point ranges.

The ranges of a list ascend and lie apart.  A code point below one of them is then in
none of the ranges after it, so the search ends there: a character at the start of
the code space is settled by the first ranges of any list, however long.

The lists written in this form give properties of version 17.0 of the Unicode
character database.
-/
namespace KernelJit

/-- The code points from `first` to `last`, both included. -/
structure CodeRange where
  first : Nat
  last : Nat
  deriving DecidableEq, Repr

namespace CodeRange

/-- Whether an ascending list of ranges covers the code point `n`. -/
def covers : List CodeRange → Nat → Bool
  | [], _ => false
  | range :: rest, n =>
    if n < range.first then false else decide (n ≤ range.last) || covers rest n

/-- No range is empty, and each one starts past the code point after the range
before it. -/
def ascends : List CodeRange → Bool
  | [] => true
  | [range] => decide (range.first ≤ range.last)
  | range :: next :: rest =>
    decide (range.first ≤ range.last) && decide (range.last + 1 < next.first) &&
      ascends (next :: rest)

/-- The number of code points in a list of ranges. -/
def size : List CodeRange → Nat
  | [] => 0
  | range :: rest => range.last + 1 - range.first + size rest

/-! ## The search misses no range -/

theorem ascends_tail {range : CodeRange} {rest : List CodeRange}
    (h : ascends (range :: rest) = true) : ascends rest = true := by
  cases rest with
  | nil => rfl
  | cons next rest => simp only [ascends, Bool.and_eq_true] at h; exact h.2

/-- Every range of an ascending list starts no lower than the first one does. -/
theorem first_le_of_mem {range other : CodeRange} {rest : List CodeRange}
    (h : ascends (range :: rest) = true) (hmem : other ∈ rest) : range.first ≤ other.first := by
  induction rest generalizing range with
  | nil => simp at hmem
  | cons next rest ih =>
    have htail := ascends_tail h
    simp only [ascends, Bool.and_eq_true, decide_eq_true_eq] at h
    rcases List.mem_cons.mp hmem with rfl | hmem
    · omega
    · have := ih htail hmem
      omega

/-- On an ascending list the early end of the search loses nothing. -/
theorem covers_iff {ranges : List CodeRange} {n : Nat} (h : ascends ranges = true) :
    covers ranges n = true ↔ ∃ range ∈ ranges, range.first ≤ n ∧ n ≤ range.last := by
  induction ranges with
  | nil => simp [covers]
  | cons range rest ih =>
    rw [covers]
    by_cases hn : n < range.first
    · rw [if_pos hn]
      constructor
      · intro hfalse
        exact absurd hfalse (by simp)
      · rintro ⟨other, hmem, hle, _⟩
        rcases List.mem_cons.mp hmem with rfl | hmem
        · omega
        · have := first_le_of_mem h hmem
          omega
    · rw [if_neg hn, Bool.or_eq_true, decide_eq_true_eq, ih (ascends_tail h)]
      simp only [List.mem_cons, exists_eq_or_imp]
      constructor
      · rintro (hle | hrest)
        · exact Or.inl ⟨by omega, hle⟩
        · exact Or.inr hrest
      · rintro (⟨_, hle⟩ | hrest)
        · exact Or.inl hle
        · exact Or.inr hrest

end CodeRange
end KernelJit
