/-
The names of a registry, each once and in the order of their bytes.

A registry looks a name up in a list, so its size is the number of its names only if the
list has no name twice.  The order of the names keeps them apart: an operator is placed
before the first name that is greater, unless its own name comes first.
-/
import KernelJit.Proofs.Context.Registration

namespace KernelJit

theorem Utf8.precedes_iff {a b : String} : precedes a b = true ↔ encode a < encode b :=
  decide_eq_true_iff

theorem Utf8.precedes_trans {a b c : String} (hab : precedes a b = true)
    (hbc : precedes b c = true) : precedes a c = true :=
  precedes_iff.mpr (List.lt_trans (precedes_iff.mp hab) (precedes_iff.mp hbc))

theorem Utf8.not_precedes_self (a : String) : ¬precedes a a = true :=
  fun h => List.lt_irrefl _ (precedes_iff.mp h)

theorem Utf8.precedes_of_not_precedes {a b : String} (hne : b ≠ a) (h : ¬precedes a b = true) :
    precedes b a = true := by
  rw [precedes_iff] at h ⊢
  apply Std.lt_of_le_of_ne (List.not_lt.mp h)
  intro hsame
  exact hne (encode_injective hsame)

namespace Registry

/-- The names stand in the order of their bytes, no name twice. -/
def Sorted (registry : Registry) : Prop :=
  registry.entries.Pairwise fun a b => Utf8.precedes a.1 b.1 = true

variable {name : String} {operator : Shared Operator} {entries : List (String × Shared Operator)}

theorem mem_place {entry : String × Shared Operator} (h : entry ∈ place name operator entries) :
    entry = (name, operator) ∨ entry ∈ entries := by
  induction entries with
  | nil => exact Or.inl (List.mem_singleton.mp h)
  | cons first rest ih =>
    rw [place] at h
    split at h
    · rcases List.mem_cons.mp h with hnew | hrest
      · exact Or.inl hnew
      · exact Or.inr (List.mem_cons_of_mem _ hrest)
    · split at h
      · exact List.mem_cons.mp h
      · rcases List.mem_cons.mp h with hfirst | hrest
        · rw [hfirst]
          exact Or.inr List.mem_cons_self
        · rcases ih hrest with hnew | hold
          · exact Or.inl hnew
          · exact Or.inr (List.mem_cons_of_mem _ hold)

theorem pairwise_place (h : entries.Pairwise fun a b => Utf8.precedes a.1 b.1 = true) :
    (place name operator entries).Pairwise fun a b => Utf8.precedes a.1 b.1 = true := by
  induction entries with
  | nil => exact List.pairwise_singleton _ _
  | cons first rest ih =>
    obtain ⟨hfirst, hrest⟩ := List.pairwise_cons.mp h
    rw [place]
    split
    · next hsame =>
      refine List.pairwise_cons.mpr ⟨?_, hrest⟩
      intro later hmem
      rw [← hsame]
      exact hfirst later hmem
    · next hne =>
      split
      · next hbefore =>
        refine List.pairwise_cons.mpr ⟨?_, h⟩
        intro later hmem
        rcases List.mem_cons.mp hmem with rfl | hmem
        · exact hbefore
        · exact Utf8.precedes_trans hbefore (hfirst later hmem)
      · next hafter =>
        refine List.pairwise_cons.mpr ⟨?_, ih hrest⟩
        intro later hmem
        rcases mem_place hmem with rfl | hmem
        · exact Utf8.precedes_of_not_precedes hne hafter
        · exact hfirst later hmem

theorem sorted_empty : empty.Sorted := List.Pairwise.nil

theorem sorted_insert {registry : Registry} (h : registry.Sorted) (name : String)
    (operator : Operator) : (registry.insert name operator).2.Sorted :=
  pairwise_place h

theorem Sorted.nodup {registry : Registry} (h : registry.Sorted) : registry.names.Nodup := by
  refine List.Pairwise.map _ ?_ h
  intro a b hbefore hsame
  rw [hsame] at hbefore
  exact Utf8.not_precedes_self _ hbefore

end Registry

theorem Context.sorted_call {context : Context} (h : context.operators.Sorted) (call : Call) :
    (context.call call).state.operators.Sorted :=
  call_preserves (P := fun after => after.operators.Sorted) h (fun _ => h)
    (fun _ name operator hcurrent => Registry.sorted_insert hcurrent name operator) call

end KernelJit
