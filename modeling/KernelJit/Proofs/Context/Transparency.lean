/-
A context with a cache behaves as one without.

The backend is taken to be a function of the request that does not look at the kernel's
name, except in its failures, and the digests of the requests of the run are taken to
tell their preimages apart.  Then requests with the same fingerprint differ in their
names alone (`eq_of_fingerprint_eq`), so a program that was compiled for one of them is
what the backend would answer now for any other (`Interchangeable`).

The invariant is `Answers`: every cached entry is a program that the backend answers for
a request of the run with the entry's key.  Which entries are put out does not matter to
it, and neither does the budget.  `Mirrors` adds that the registries have the same
contents; a call takes it to states that mirror each other again (`call_mirrors`).
-/
import KernelJit.Proofs.Cache.Tally
import KernelJit.Proofs.Context.Requests
import KernelJit.Proofs.Context.Uncached

namespace KernelJit

/-- A backend for which neither success nor the program depends on the kernel's name. -/
def Backend.NameBlind (backend : Backend) : Prop :=
  ∀ received request name program, backend.answer received request = .done program →
    backend.answer received { request with name } = .done program

namespace Context

/-! ## What is cached -/

section

variable {prepare : Call → Except Failure Request} {compiled : Request → Outcome Program}
  {requests : List Request}

/-- A program for one of the requests is a program for all with its fingerprint. -/
def Interchangeable (compiled : Request → Outcome Program) (requests : List Request) : Prop :=
  ∀ r ∈ requests, ∀ s ∈ requests, Fingerprint.ofRequest r = Fingerprint.ofRequest s →
    ∀ program, compiled r = .done program → compiled s = .done program

/-- An entry is the program for one of the requests, under that request's fingerprint. -/
def Answers (compiled : Request → Outcome Program) (requests : List Request)
    (entry : Cache.Entry) : Prop :=
  ∃ request ∈ requests, entry.key = Fingerprint.ofRequest request ∧
    ∃ program, compiled request = .done program ∧ entry.program.value = program.tag entry.key

/-- Asking for a program gives what the backend answers now, under the fingerprint of
the request. -/
theorem ask_value {context : Context} (hinter : Interchangeable compiled requests)
    (hanswer : context.backend.answer = fun _ => compiled)
    (hentries : ∀ entry ∈ context.cache.entries, Answers compiled requests entry)
    {request : Request} (hmem : request ∈ requests) :
    (context.ask request).result.map (·.value) =
      (compiled request).map (·.tag (Fingerprint.ofRequest request)) := by
  unfold ask
  cases hfind : context.cache.find? (Fingerprint.ofRequest request) with
  | some entry =>
    -- The entry may have been compiled for a request with another name.
    have hkey := Cache.key_of_find? hfind
    obtain ⟨other, hother, hotherKey, program, hdone, hvalue⟩ :=
      hentries entry (Cache.mem_of_find? hfind)
    have hnow : compiled request = .done program :=
      hinter other hother request hmem (hotherKey.symm.trans hkey) program hdone
    rw [Cache.getOrCompile_of_hit hfind, hnow, ← hkey]
    exact congrArg Outcome.done hvalue
  | none =>
    have happly : context.backend.answer context.backend.received request = compiled request :=
      congrFun (congrFun hanswer _) request
    cases hnow : compiled request with
    | done program => rw [Cache.getOrCompile_of_done hfind (happly.trans hnow)]; rfl
    | failed failure => rw [Cache.getOrCompile_of_failed hfind (happly.trans hnow)]; rfl
    | crashed text => rw [Cache.getOrCompile_of_crashed hfind (happly.trans hnow)]; rfl

theorem answers_asked {context : Context} (hanswer : context.backend.answer = fun _ => compiled)
    (hentries : ∀ entry ∈ context.cache.entries, Answers compiled requests entry)
    {request : Request} (hmem : request ∈ requests) :
    ∀ entry ∈ (context.asked request).cache.entries, Answers compiled requests entry := by
  refine Cache.forall_getOrCompile (fun _ hentry => hentry) hentries ?_
  intro program id hdone
  rw [hanswer] at hdone
  exact ⟨request, hmem, rfl, program, hdone, rfl⟩

/-! ## One call -/

/-- A context with a cache and one without that are in the same position. -/
structure Mirrors (prepare : Call → Except Failure Request)
    (compiled : Request → Outcome Program) (requests : List Request)
    (context : Context) (plain : Uncached) : Prop where
  prepares : ∀ call : Call, call.prepare context.device context.options = prepare call
  plainPrepares : ∀ call : Call, call.prepare plain.device plain.options = prepare call
  answer : context.backend.answer = fun _ => compiled
  plainAnswer : plain.backend.answer = fun _ => compiled
  entries : ∀ entry ∈ context.cache.entries, Answers compiled requests entry
  contents : context.operators.contents = plain.operators.contents

theorem ask_mirrors {context : Context} {plain : Uncached}
    (hinter : Interchangeable compiled requests)
    (h : Mirrors prepare compiled requests context plain) {request : Request}
    (hmem : request ∈ requests) :
    (context.ask request).result.map (·.value) = (plain.ask request).result.map (·.value) ∧
      Mirrors prepare compiled requests (context.asked request) (plain.ask request).state := by
  constructor
  · rw [ask_value hinter h.answer h.entries hmem]
    have hplain : plain.backend.answer plain.backend.received request = compiled request :=
      congrFun (congrFun h.plainAnswer _) request
    show _ = Outcome.map _ (Outcome.map _ (plain.backend.answer plain.backend.received request))
    rw [hplain]
    cases compiled request with
    | done program => rfl
    | failed failure => rfl
    | crashed text => rfl
  · exact
      { prepares := h.prepares
        plainPrepares := h.plainPrepares
        answer := (Cache.answer_getOrCompile _ _ _).trans h.answer
        plainAnswer := h.plainAnswer
        entries := answers_asked h.answer h.entries hmem
        contents := h.contents }

theorem finish_mirrors {context : Context} {plain : Uncached}
    (h : Mirrors prepare compiled requests context plain) (call : Call)
    {got plainGot : Outcome (Shared Program)}
    (hgot : got.map (·.value) = plainGot.map (·.value)) :
    (context.finish call got).result.map (·.value.content) =
        (plain.finish call plainGot).result.map (·.value.content) ∧
      Mirrors prepare compiled requests (context.finish call got).state
        (plain.finish call plainGot).state := by
  cases got with
  | done program =>
    cases plainGot with
    | done plainProgram =>
      have hprogram : program.value = plainProgram.value := Outcome.done.inj hgot
      have hcontent : (call.operator program).content = (call.operator plainProgram).content := by
        unfold Operator.content Call.operator
        rw [hprogram]
      rw [finish, register_eq]
      refine ⟨congrArg Outcome.done hcontent, ?_⟩
      exact { h with contents := Registry.contents_insert h.contents hcontent call.name }
    | failed failure => cases hgot
    | crashed text => cases hgot
  | failed failure =>
    cases plainGot with
    | done program => cases hgot
    | failed other => exact ⟨congrArg Outcome.failed (Outcome.failed.inj hgot), h⟩
    | crashed text => cases hgot
  | crashed text =>
    cases plainGot with
    | done program => cases hgot
    | failed failure => cases hgot
    | crashed other => exact ⟨congrArg Outcome.crashed (Outcome.crashed.inj hgot), h⟩

theorem call_mirrors {context : Context} {plain : Uncached}
    (hinter : Interchangeable compiled requests)
    (h : Mirrors prepare compiled requests context plain) {call : Call}
    (hrequest : ∀ request, prepare call = .ok request → request ∈ requests) :
    (context.call call).result.map (·.value.content) =
        (plain.call call).result.map (·.value.content) ∧
      Mirrors prepare compiled requests (context.call call).state (plain.call call).state := by
  have hcached := h.prepares call
  have hplain := h.plainPrepares call
  unfold Uncached.call
  rw [hplain]
  cases hprepare : prepare call with
  | error failure =>
    rw [hprepare] at hcached
    rw [call_of_refused hcached]
    exact ⟨rfl, h⟩
  | ok request =>
    rw [hprepare] at hcached
    rw [call_of_prepared hcached]
    obtain ⟨hgot, hasked⟩ := ask_mirrors hinter h (hrequest request hprepare)
    exact finish_mirrors hasked call hgot

/-! ## Runs of calls -/

theorem seen_eq_of_mirrors (hinter : Interchangeable compiled requests) {calls : List Call}
    (hrequests : ∀ call ∈ calls, ∀ request, prepare call = .ok request → request ∈ requests)
    {context : Context} {plain : Uncached}
    (h : Mirrors prepare compiled requests context plain) :
    context.seen calls = plain.seen calls := by
  induction calls generalizing context plain with
  | nil => rfl
  | cons call rest ih =>
    obtain ⟨hresult, hnext⟩ := call_mirrors hinter h (hrequests call List.mem_cons_self)
    have hrest := ih (fun later hmem => hrequests later (List.mem_cons_of_mem call hmem)) hnext
    have hhead : Seen.mk ((context.call call).result.map (·.value.content))
        (context.call call).state.operators.contents =
        Seen.mk ((plain.call call).result.map (·.value.content))
        (plain.call call).state.operators.contents := by
      rw [hresult, hnext.contents]
    exact List.cons_eq_cons.mpr ⟨hhead, hrest⟩

end

/-- The cache cannot be seen.  With a backend that is a function of the request and does
not look at the kernel's name, and without collisions of the digest, calls end in the
same way and leave the same contents registered as in a context that keeps no programs,
whatever the budget of the cache and the choice between entries to put out.  So contexts
that differ in the two alone cannot be told apart by the calls they take.  Texts have
64-bit lengths, as everywhere. -/
theorem seen_eq_uncached (device : UInt32) (options : Options) {backend : Backend}
    (hpure : backend.Pure) (hblind : backend.NameBlind) (calls : List Call)
    (hfits : ∀ request ∈ requests device options calls, request.Fits)
    (hcollision : Fingerprint.CollisionFree (requests device options calls)) :
    let cached (megabytes : Size) (ties : TieBreak) : Context :=
      create device { options with cacheMegabytes := megabytes } backend ties
    (∀ megabytes ties, (cached megabytes ties).seen calls =
      (Uncached.create device options backend).seen calls) ∧
    (∀ megabytes megabytes' ties ties',
      (cached megabytes ties).seen calls = (cached megabytes' ties').seen calls) := by
  intro cached
  have hinter : Interchangeable (backend.answer []) (requests device options calls) := by
    intro r hr s hs hkey program hdone
    rw [eq_of_fingerprint_eq hfits hcollision hr hs hkey]
    exact hblind [] r s.name program hdone
  have hanswer : backend.answer = fun _ => backend.answer [] :=
    funext fun received => funext fun request => hpure received request
  have hplain : ∀ megabytes ties, (cached megabytes ties).seen calls =
      (Uncached.create device options backend).seen calls := by
    intro megabytes ties
    have hmirrors : Mirrors (·.prepare device options) (backend.answer [])
        (requests device options calls) (cached megabytes ties)
        (Uncached.create device options backend) :=
      { prepares := fun _ => rfl
        plainPrepares := fun _ => rfl
        answer := hanswer
        plainAnswer := hanswer
        entries := fun _ hmem => absurd hmem List.not_mem_nil
        contents := rfl }
    refine seen_eq_of_mirrors hinter ?_ hmirrors
    intro call hmem request hprepare
    exact mem_requests.mpr ⟨call, hmem, hprepare⟩
  refine ⟨hplain, fun megabytes megabytes' ties ties' => ?_⟩
  exact (hplain megabytes ties).trans (hplain megabytes' ties').symm

theorem seen_eq_uncached_rejecting :
    let options : Options := { kernelDirs := [], systemDirs := [], cacheMegabytes := 0 }
    let env : Environment := fun _ => some "/"
    let calls : List Call := [⟨env, "a", "k"⟩, ⟨env, "b", "k"⟩, ⟨env, "a", "m"⟩]
    ∀ megabytes ties,
      (create 0 { options with cacheMegabytes := megabytes } (.rejecting "b") ties).seen calls =
        (Uncached.create 0 options (.rejecting "b")).seen calls := by
  intro options env calls
  have hblind : (Backend.rejecting "b").NameBlind := fun _ request name program h => by
    by_cases hsource : request.source = "b"
    · cases (if_pos hsource).symm.trans h
    · exact (if_neg hsource).trans ((if_neg hsource).symm.trans h)
  exact (seen_eq_uncached 0 options (fun _ _ => rfl) hblind calls (by decide +kernel)
    (by decide +kernel)).1

end Context
end KernelJit
