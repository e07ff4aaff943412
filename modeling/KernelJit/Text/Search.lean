/-
The first occurrence of one byte list in another.

`indexOf? needle bytes` walks along `bytes` and stops at the first position where
`needle` starts.  `OccursAt` says what an occurrence is without any search, and
`indexOf?_eq_some_iff` and `indexOf?_eq_none_iff` say that the walk finds the
first one and finds one whenever there is one.  The walk carries its position in
an accumulator, so a source of any length is searched in constant stack.
-/
namespace KernelJit
namespace Search

/-- `needle` stands in `bytes` at position `i`. -/
def OccursAt (needle bytes : List UInt8) (i : Nat) : Prop :=
  i ≤ bytes.length ∧ needle <+: bytes.drop i

instance (needle bytes : List UInt8) (i : Nat) : Decidable (OccursAt needle bytes i) :=
  inferInstanceAs (Decidable (_ ∧ _))

/-- Search for `needle` in the rest of a list that starts at position `i`. -/
def indexFrom (needle : List UInt8) (i : Nat) : List UInt8 → Option Nat
  | [] => if needle.isEmpty then some i else none
  | byte :: rest =>
    if needle.isPrefixOf (byte :: rest) then some i else indexFrom needle (i + 1) rest

/-- Position of the first occurrence of `needle` in `bytes`. -/
def indexOf? (needle bytes : List UInt8) : Option Nat :=
  indexFrom needle 0 bytes

/-- Whether `needle` occurs in `bytes`. -/
def contains (bytes needle : List UInt8) : Bool :=
  (indexOf? needle bytes).isSome

/-! ## The walk finds the first occurrence -/

theorem occursAt_zero {needle bytes : List UInt8} : OccursAt needle bytes 0 ↔ needle <+: bytes := by
  simp [OccursAt]

theorem occursAt_succ {needle rest : List UInt8} {byte : UInt8} {i : Nat} :
    OccursAt needle (byte :: rest) (i + 1) ↔ OccursAt needle rest i := by
  simp [OccursAt]

/-- A walk that starts at position `i` answers `i` plus the first occurrence in
the rest of the list. -/
theorem indexFrom_eq_some_iff {needle bytes : List UInt8} {i p : Nat} :
    indexFrom needle i bytes = some p ↔
      ∃ k, p = i + k ∧ OccursAt needle bytes k ∧ ∀ j, j < k → ¬ OccursAt needle bytes j := by
  induction bytes generalizing i with
  | nil =>
    constructor
    · intro h
      cases needle with
      | nil =>
        refine ⟨0, ?_, by simp [OccursAt], fun j hj => absurd hj (Nat.not_lt_zero j)⟩
        simpa [indexFrom, eq_comm] using h
      | cons a as => simp [indexFrom] at h
    · rintro ⟨k, rfl, hk, _⟩
      obtain ⟨hle, hpre⟩ := hk
      have hk0 : k = 0 := by simpa using hle
      subst hk0
      have hn : needle = [] := by simpa using hpre
      simp [indexFrom, hn]
  | cons byte rest ih =>
    rw [indexFrom]
    by_cases hpre : needle.isPrefixOf (byte :: rest) = true
    · rw [if_pos hpre]
      have h0 : OccursAt needle (byte :: rest) 0 :=
        occursAt_zero.mpr (List.isPrefixOf_iff_prefix.mp hpre)
      constructor
      · intro h
        exact ⟨0, (Option.some.inj h).symm, h0, fun j hj => absurd hj (Nat.not_lt_zero j)⟩
      · rintro ⟨k, rfl, _, hfirst⟩
        cases k with
        | zero => rfl
        | succ k => exact absurd h0 (hfirst 0 (Nat.succ_pos k))
    · rw [if_neg hpre, ih]
      have h0 : ¬ OccursAt needle (byte :: rest) 0 := fun h =>
        hpre (List.isPrefixOf_iff_prefix.mpr (occursAt_zero.mp h))
      constructor
      · rintro ⟨k, rfl, hk, hfirst⟩
        refine ⟨k + 1, by omega, occursAt_succ.mpr hk, fun j hj => ?_⟩
        cases j with
        | zero => exact h0
        | succ j => exact fun h => hfirst j (Nat.lt_of_succ_lt_succ hj) (occursAt_succ.mp h)
      · rintro ⟨k, rfl, hk, hfirst⟩
        cases k with
        | zero => exact absurd hk h0
        | succ k =>
          exact ⟨k, by omega, occursAt_succ.mp hk, fun j hj h =>
            hfirst (j + 1) (Nat.succ_lt_succ hj) (occursAt_succ.mpr h)⟩

/-- The position found is the first at which `needle` occurs. -/
theorem indexOf?_eq_some_iff {needle bytes : List UInt8} {p : Nat} :
    indexOf? needle bytes = some p ↔
      OccursAt needle bytes p ∧ ∀ j, j < p → ¬ OccursAt needle bytes j := by
  rw [indexOf?, indexFrom_eq_some_iff]
  constructor
  · rintro ⟨k, rfl, h⟩
    simpa using h
  · exact fun h => ⟨p, (Nat.zero_add p).symm, h⟩

/-- Nothing is found exactly if `needle` occurs nowhere. -/
theorem indexOf?_eq_none_iff {needle bytes : List UInt8} :
    indexOf? needle bytes = none ↔ ∀ p, ¬ OccursAt needle bytes p := by
  constructor
  · intro h p
    induction p using Nat.strongRecOn with
    | ind p ih =>
      intro hp
      have hsome := indexOf?_eq_some_iff.mpr ⟨hp, ih⟩
      rw [h] at hsome
      exact absurd hsome (by simp)
  · intro h
    cases hp : indexOf? needle bytes with
    | none => rfl
    | some p => exact absurd (indexOf?_eq_some_iff.mp hp).1 (h p)

/-- Containment is occurrence somewhere. -/
theorem contains_iff {needle bytes : List UInt8} :
    contains bytes needle = true ↔ ∃ p, OccursAt needle bytes p := by
  rw [contains, Option.isSome_iff_ne_none, Ne, indexOf?_eq_none_iff]
  simp

end Search
end KernelJit
