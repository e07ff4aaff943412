/-
Within the budget every kernel is compiled once, and its program is shared.

While all that the backend compiles fits into the cache together, nothing is put out.
Then a program has been compiled once for each fingerprint, whatever the backend makes
of its earlier requests and however often it has failed before, and it is the object that
every request with the fingerprint is answered with.  For the operators of a context this
means that two of them share a program exactly if their sources, variants and include
flags are equal, under whatever names.
-/
import KernelJit.Proofs.Cache.Retention
import KernelJit.Proofs.Cache.Tally
import KernelJit.Proofs.Context.Requests

namespace KernelJit
namespace Context

variable {device : UInt32} {options : Options} {backend : Backend} {ties : TieBreak}
  {calls : List Call}

theorem program_id_eq_iff
    (hfits : ∀ request ∈ requests device options calls, request.Fits)
    (hcollision : Fingerprint.CollisionFree (requests device options calls))
    (hbytes : Cache.bytes (Cache.ledger (create device options backend ties).stock
      (requests device options calls)) ≤ (create device options backend ties).cache.budget.toNat)
    {s t : Turn Call Context (Outcome (Shared Operator))}
    (hs : s ∈ (create device options backend ties).history calls)
    (ht : t ∈ (create device options backend ties).history calls)
    {p q : Shared Operator} (hp : s.step.result = .done p) (hq : t.step.result = .done q)
    {r r' : Request} (hr : s.command.prepare device options = .ok r)
    (hr' : t.command.prepare device options = .ok r') :
    p.value.program.id = q.value.program.id ↔
      r.source = r'.source ∧ r.variant = r'.variant ∧ r.includeFlags = r'.includeFlags := by
  obtain ⟨answered, hanswered, hcommand, hdone⟩ := exists_turn_of_done hs hp
  obtain ⟨answered', hanswered', hcommand', hdone'⟩ := exists_turn_of_done ht hq
  obtain rfl := Except.ok.inj (hr.symm.trans hcommand)
  obtain rfl := Except.ok.inj (hr'.symm.trans hcommand')
  rw [Cache.answered_id_eq_iff hbytes hanswered hanswered' hdone hdone']
  exact fingerprint_eq_iff hfits hcollision (Run.command_mem_of_mem_turns hanswered)
    (Run.command_mem_of_mem_turns hanswered')

/-- A run from an empty cache compiles each kernel once as long as all that the backend
compiles fits into the budget together.  In a run of calls of a context two operators then
have one program exactly if their requests have the same source, variant and include flags,
under whatever names. -/
theorem compiled_once_and_shared (ties : TieBreak) (backend : Backend) :
    (∀ (budget : Size) (requests : List Request),
      Cache.bytes (Cache.ledger (Cache.ofBytes budget ties, backend) requests) ≤ budget.toNat →
        Cache.CompilesOnce (Cache.ofBytes budget ties, backend) requests) ∧
    (∀ (device : UInt32) (options : Options) (calls : List Call),
      let context := create device options backend ties
      (∀ request ∈ requests device options calls, request.Fits) →
      Fingerprint.CollisionFree (requests device options calls) →
      Cache.bytes (Cache.ledger context.stock (requests device options calls)) ≤
          context.cache.budget.toNat →
        ∀ s ∈ context.history calls, ∀ t ∈ context.history calls,
        ∀ p q, s.step.result = .done p → t.step.result = .done q →
        ∀ r r', s.command.prepare device options = .ok r →
          t.command.prepare device options = .ok r' →
          (p.value.program.id = q.value.program.id ↔
            r.source = r'.source ∧ r.variant = r'.variant ∧
              r.includeFlags = r'.includeFlags)) := by
  constructor
  · intro budget requests hbytes
    exact Cache.compilesOnce_of_bytes_le hbytes
  · intro device options calls context hfits hcollision hbytes s hs t ht p q hp hq r r' hr hr'
    exact program_id_eq_iff hfits hcollision hbytes hs ht hp hq hr hr'

/-- The budget is met exactly, a request for another kernel fails in between, and the kernel
is asked for again under another name. -/
theorem compiled_once_and_shared_exact_budget :
    let request (name source : String) : Request :=
      { name, source, variant := 0, includeFlags := [], device := 0 }
    let options : Options := { kernelDirs := [], systemDirs := [], cacheMegabytes := 1 }
    let env : Environment := fun _ => some "/"
    let calls : List Call := [⟨env, "a", "k"⟩, ⟨env, "b", "k"⟩, ⟨env, "a", "m"⟩]
    let context := create 0 options (.rejecting "b") .oldest
    Cache.CompilesOnce (Cache.ofBytes 1 .oldest, .rejecting "b")
      [request "k" "a", request "k" "b", request "m" "a"] ∧
    (∀ s ∈ context.history calls, ∀ t ∈ context.history calls,
      ∀ p q, s.step.result = .done p → t.step.result = .done q →
      ∀ r r', s.command.prepare 0 options = .ok r → t.command.prepare 0 options = .ok r' →
        (p.value.program.id = q.value.program.id ↔
          r.source = r'.source ∧ r.variant = r'.variant ∧ r.includeFlags = r'.includeFlags)) := by
  intro request options env calls context
  have hshared := compiled_once_and_shared .oldest (.rejecting "b")
  constructor
  · exact hshared.1 1 [request "k" "a", request "k" "b", request "m" "a"] (by decide +kernel)
  · exact hshared.2 0 options calls (by decide +kernel) (by decide +kernel) (by decide +kernel)

end Context
end KernelJit
