/-
All that a call reads of its environment is the toolchain root, up to its last slashes.

Under environments with the same root a call does the same, event for event.  Roots that
still differ without the slashes at their ends show in the last include flag, and so in the
preimage of the request, however long the texts are: the two preimages agree up to that
flag, and nothing comes after it.  So a program that was compiled with one root is never
answered to a call with the other, as long as the digest does not collide.
-/
import KernelJit.Proofs.Cache.Tally
import KernelJit.Proofs.Context.Requests
import KernelJit.Proofs.ToolchainRoot

namespace KernelJit

/-! ## The flag of the root -/

theorem rootFlag_inj {a b : String} (h : "-I" ++ a ++ "/include" = "-I" ++ b ++ "/include") :
    a = b := by
  rw [← String.toList_inj, String.toList_append, String.toList_append, String.toList_append,
    String.toList_append] at h
  exact String.toList_inj.mp (List.append_cancel_left (List.append_cancel_right h))

theorem Options.includeFlags_congr (options : Options) {root other : String}
    (h : trimSlashes root = trimSlashes other) :
    options.includeFlags root = options.includeFlags other := by
  unfold includeFlags
  rw [h]

/-- The flags before that of the root are the same for all roots. -/
theorem Options.trimSlashes_eq_of_flatMap_eq {β : Type} {f : String → List β}
    (hf : ∀ {a b}, f a = f b → a = b) {options : Options} {root other : String}
    (h : (options.includeFlags root).flatMap f = (options.includeFlags other).flatMap f) :
    trimSlashes root = trimSlashes other := by
  unfold includeFlags at h
  rw [List.flatMap_append, List.flatMap_append] at h
  have hlast := List.append_cancel_left h
  rw [List.flatMap_singleton, List.flatMap_singleton] at hlast
  exact rootFlag_inj (hf hlast)

theorem Options.includeFlags_inj {options : Options} {root other : String}
    (h : options.includeFlags root = options.includeFlags other) :
    trimSlashes root = trimSlashes other :=
  options.trimSlashes_eq_of_flatMap_eq (f := fun flag => [flag])
    (fun hsame => List.head_eq_of_cons_eq hsame) (congrArg _ h)

namespace Context

/-- Requests for one kernel with two roots have one preimage exactly if the roots trim to
the same path. -/
theorem preimage_request_eq_iff (context : Context) (source name : String) {root other : String} :
    Fingerprint.preimage (context.request source name root) =
        Fingerprint.preimage (context.request source name other) ↔
      Options.trimSlashes root = Options.trimSlashes other := by
  unfold Fingerprint.preimage request
  constructor
  · intro h
    exact context.options.trimSlashes_eq_of_flatMap_eq Fingerprint.field_inj
      (List.append_cancel_left h)
  · intro h
    rw [context.options.includeFlags_congr h]

/-! ## One call -/

theorem compile_of_sameRoot (context : Context) (source name : String) {env other : Environment}
    (h : SameRoot context.options.rootVariable env other) :
    context.compile env source name = context.compile other source name := by
  cases h with
  | unset h hother =>
    unfold compile
    rw [Options.root_of_unset h, Options.root_of_unset hother]
  | @set root otherRoot trimmed h hother hne hotherNe htrim hotherTrim =>
    have hsame : Options.trimSlashes root = Options.trimSlashes otherRoot :=
      (trimsTo_iff.mp htrim).trans (trimsTo_iff.mp hotherTrim).symm
    have hrequest : context.request source name root = context.request source name otherRoot := by
      unfold request
      rw [context.options.includeFlags_congr hsame]
    unfold compile
    rw [Options.root_of_set h hne, Options.root_of_set hother hotherNe]
    dsimp only
    unfold compileWithRoot
    rw [hrequest]

/-! ## Runs of calls -/

theorem sameRoot_of_program_id_eq {device : UInt32} {options : Options} {backend : Backend}
    {ties : TieBreak} {calls : List Call}
    (hfits : ∀ request ∈ requests device options calls, request.Fits)
    (hcollision : Fingerprint.CollisionFree (requests device options calls))
    {s t : Turn Call Context (Outcome (Shared Operator))}
    (hs : s ∈ (create device options backend ties).history calls)
    (ht : t ∈ (create device options backend ties).history calls)
    {p q : Shared Operator} (hp : s.step.result = .done p) (hq : t.step.result = .done q)
    (hid : p.value.program.id = q.value.program.id) :
    SameRoot options.rootVariable s.command.env t.command.env := by
  obtain ⟨answered, hanswered, hprepare, hdone⟩ := exists_turn_of_done hs hp
  obtain ⟨answered', hanswered', hprepare', hdone'⟩ := exists_turn_of_done ht hq
  have hkey := (Cache.answered_id_eq hanswered hanswered' hdone hdone' hid).1
  obtain ⟨_, _, hflags⟩ := (fingerprint_eq_iff hfits hcollision
    (Run.command_mem_of_mem_turns hanswered) (Run.command_mem_of_mem_turns hanswered')).mp hkey
  obtain ⟨_, _, root, hroot, hrequest⟩ := Call.of_prepare_ok hprepare
  obtain ⟨_, _, root', hroot', hrequest'⟩ := Call.of_prepare_ok hprepare'
  rw [hrequest, hrequest'] at hflags
  obtain ⟨hset, hne⟩ := Options.root_eq_ok_iff.mp hroot
  obtain ⟨hset', hne'⟩ := Options.root_eq_ok_iff.mp hroot'
  exact .set hset hset' hne hne' (trimsTo_iff.mpr rfl)
    (trimsTo_iff.mpr (Options.includeFlags_inj hflags).symm)

/-- Under environments with the same root a call does the same in every context.  Roots that
trim to different paths make different preimages.  In a run of calls operators that have one
program were compiled under environments with the same root. -/
theorem root_matters_up_to_slashes :
    (∀ (context : Context) (source name : String) (env other : Environment),
      SameRoot context.options.rootVariable env other →
        context.compile env source name = context.compile other source name) ∧
    (∀ (context : Context) (source name root other trimmed otherTrimmed : String),
      TrimsTo root trimmed → TrimsTo other otherTrimmed →
        (Fingerprint.preimage (context.request source name root) =
            Fingerprint.preimage (context.request source name other) ↔
          trimmed = otherTrimmed)) ∧
    (∀ (device : UInt32) (options : Options) (backend : Backend) (ties : TieBreak)
      (calls : List Call),
      (∀ request ∈ requests device options calls, request.Fits) →
      Fingerprint.CollisionFree (requests device options calls) →
        ∀ s ∈ (create device options backend ties).history calls,
        ∀ t ∈ (create device options backend ties).history calls,
        ∀ p q, s.step.result = .done p → t.step.result = .done q →
          p.value.program.id = q.value.program.id →
            SameRoot options.rootVariable s.command.env t.command.env) := by
  refine ⟨?_, ?_, ?_⟩
  · intro context source name env other h
    exact context.compile_of_sameRoot source name h
  · intro context source name root other trimmed otherTrimmed htrim hotherTrim
    rw [preimage_request_eq_iff, trimsTo_iff.mp htrim, trimsTo_iff.mp hotherTrim]
  · intro device options backend ties calls hfits hcollision s hs t ht p q hp hq hid
    exact sameRoot_of_program_id_eq hfits hcollision hs ht hp hq hid

/-- One root with and without slashes at its end, and another that looks like a flag. -/
theorem root_matters_up_to_slashes_flag :
    let options : Options := { kernelDirs := [], systemDirs := [], cacheMegabytes := 1 }
    let env (root : String) : Environment := fun var =>
      if var = "CUDA_PATH" then some root else some "elsewhere"
    let calls : List Call := [⟨env "/usr", "a", "k"⟩, ⟨env "-I", "a", "m"⟩, ⟨env "/usr//", "a", "m"⟩]
    let context := create 0 options (.rejecting "b") .oldest
    context.compile (env "/usr") "a" "k" = context.compile (env "/usr//") "a" "k" ∧
    Fingerprint.preimage (context.request "a" "k" "/usr") ≠
      Fingerprint.preimage (context.request "a" "k" "-I") ∧
    (∀ s ∈ context.history calls, ∀ t ∈ context.history calls,
      ∀ p q, s.step.result = .done p → t.step.result = .done q →
        p.value.program.id = q.value.program.id →
          SameRoot "CUDA_PATH" s.command.env t.command.env) := by
  intro options env calls context
  have hplain : TrimsTo "/usr" "/usr" := trimsTo_iff.mpr (by decide)
  have hslashes : TrimsTo "/usr//" "/usr" := trimsTo_iff.mpr (by decide)
  have hflag : TrimsTo "-I" "-I" := trimsTo_iff.mpr (by decide)
  obtain ⟨hsame, hpreimage, hshared⟩ := root_matters_up_to_slashes
  refine ⟨?_, ?_, ?_⟩
  · exact hsame context "a" "k" (env "/usr") (env "/usr//")
      (.set rfl rfl (by decide) (by decide) hplain hslashes)
  · rw [Ne, hpreimage context "a" "k" "/usr" "-I" "/usr" "-I" hplain hflag]
    decide
  · exact hshared 0 options (.rejecting "b") .oldest calls (by decide +kernel) (by decide +kernel)

end Context
end KernelJit
