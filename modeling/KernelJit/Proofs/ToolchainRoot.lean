/-
The toolchain root: when there is one, and what of it the include flags show.

A root is there if its variable is set and not empty.  The flags show it without the slashes
at its end: `TrimsTo` says what that is without the function that computes it, and each path
trims to exactly one (`trimsTo_iff`).  Two environments have the `SameRoot` if neither has
one or if their roots trim to the same path.  Nothing else of an environment is read.
-/
import KernelJit.Options
import Mathlib.Data.List.DropRight

namespace KernelJit

/-! ## The variable -/

/-- A variable that is not set, or set to the empty text. -/
def Environment.Unset (env : Environment) (var : String) : Prop :=
  env var = none ∨ env var = some ""

namespace Options

variable {options : Options} {env : Environment} {root : String}

theorem root_of_unset (h : env.Unset options.rootVariable) :
    options.root env =
      (.error (.missingToolchainRoot options.rootVariable),
        [.rootUnset options.rootVariable]) := by
  rcases h with hnone | hempty
  · rw [Options.root, hnone]
  · rw [Options.root, hempty]
    exact if_pos rfl

theorem root_of_set (h : env options.rootVariable = some root) (hne : root ≠ "") :
    options.root env = (.ok root, []) := by
  rw [Options.root, h]
  exact if_neg hne

theorem unset_or_set (options : Options) (env : Environment) :
    env.Unset options.rootVariable ∨
      ∃ root, env options.rootVariable = some root ∧ root ≠ "" := by
  cases h : env options.rootVariable with
  | none => exact Or.inl (Or.inl h)
  | some root =>
    by_cases hempty : root = ""
    · exact Or.inl (Or.inr (hempty ▸ h))
    · exact Or.inr ⟨root, rfl, hempty⟩

theorem root_eq_ok_iff :
    (options.root env).1 = .ok root ↔ env options.rootVariable = some root ∧ root ≠ "" := by
  constructor
  · intro h
    rcases unset_or_set options env with hunset | ⟨found, hfound, hne⟩
    · rw [root_of_unset hunset] at h
      cases h
    · rw [root_of_set hfound hne] at h
      cases h
      exact ⟨hfound, hne⟩
  · intro h
    rw [root_of_set h.1 h.2]

end Options

/-! ## Slashes at the end -/

/-- The path without the slashes at its end. -/
structure TrimsTo (path trimmed : String) : Prop where
  slashes : ∃ n, path.toList = trimmed.toList ++ List.replicate n '/'
  last : trimmed.toList.getLast? ≠ some '/'

theorem toList_trimSlashes (path : String) :
    (Options.trimSlashes path).toList = path.toList.rdropWhile (· == '/') :=
  String.toList_ofList

theorem trimsTo_trimSlashes (path : String) : TrimsTo path (Options.trimSlashes path) := by
  constructor
  · refine ⟨(path.toList.rtakeWhile (· == '/')).length, ?_⟩
    have hslashes : path.toList.rtakeWhile (· == '/') =
        List.replicate (path.toList.rtakeWhile (· == '/')).length '/' :=
      List.eq_replicate_iff.mpr ⟨rfl, fun c hmem =>
        eq_of_beq (List.mem_rtakeWhile_imp (p := (· == '/')) hmem)⟩
    rw [toList_trimSlashes, ← hslashes, List.rdropWhile_append_rtakeWhile]
  · rw [toList_trimSlashes]
    intro h
    by_cases hempty : path.toList.rdropWhile (· == '/') = []
    · rw [hempty] at h
      cases h
    · rw [List.getLast?_eq_some_getLast hempty] at h
      exact List.rdropWhile_last_not _ _ hempty (beq_iff_eq.mpr (Option.some.inj h))

theorem rdropWhile_append_replicate {text : List Char} (h : text.getLast? ≠ some '/') (n : Nat) :
    (text ++ List.replicate n '/').rdropWhile (· == '/') = text := by
  induction n with
  | zero =>
    rw [List.replicate_zero, List.append_nil, List.rdropWhile_eq_self_iff]
    intro hne hslash
    exact h (by rw [List.getLast?_eq_some_getLast hne, eq_of_beq hslash])
  | succ n ih =>
    rw [List.replicate_succ', ← List.append_assoc, List.rdropWhile_concat_pos _ _ _ rfl, ih]

theorem trimsTo_iff {path trimmed : String} :
    TrimsTo path trimmed ↔ Options.trimSlashes path = trimmed := by
  constructor
  · intro h
    obtain ⟨n, hpath⟩ := h.slashes
    rw [← String.toList_inj, toList_trimSlashes, hpath, rdropWhile_append_replicate h.last n]
  · intro h
    exact h ▸ trimsTo_trimSlashes path

/-! ## Environments with the same root -/

/-- Two environments in neither of which a variable names a root, or in which it names paths
that differ in the slashes at their ends at most. -/
inductive SameRoot (var : String) (env other : Environment) : Prop where
  | unset (h : env.Unset var) (hother : other.Unset var)
  | set {root otherRoot trimmed : String} (h : env var = some root)
      (hother : other var = some otherRoot) (hne : root ≠ "") (hotherNe : otherRoot ≠ "")
      (htrim : TrimsTo root trimmed) (hotherTrim : TrimsTo otherRoot trimmed)

end KernelJit
