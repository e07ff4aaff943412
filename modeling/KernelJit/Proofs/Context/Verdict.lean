/-
How a call ends, read off the context and the call.

`Ending` lists the seven ways, with the requests that the backend is asked on the way, in
the order in which they are tried: no name, no source, no toolchain root, a program in the
cache, and otherwise what the backend answers.  It asks the cache for the one key and the
backend for the one answer, and it is exact (`ending_iff_ends`): a call ends in one of these
ways and in no other, in any context.  So the backend is asked at most once, and a fault of
the library is answered only if the backend has answered it.
-/
import KernelJit.Proofs.Context.Events
import KernelJit.Proofs.Context.Requests
import KernelJit.Proofs.ToolchainRoot

namespace KernelJit

/-! ## The requests among events -/

/-- What the backend was asked for, if the event is a call of it. -/
def Event.request? : Event → Option Request
  | .backendCalled _ request => some request
  | _ => none

/-- What the backend was asked for in the course of some events. -/
def Event.requests (trace : List Event) : List Request :=
  trace.filterMap Event.request?

theorem Event.requests_append (a b : List Event) : requests (a ++ b) = requests a ++ requests b :=
  List.filterMap_append

theorem Event.requests_eq_nil {trace : List Event} (h : ∀ event ∈ trace, event.request? = none) :
    requests trace = [] :=
  List.filterMap_eq_nil_iff.mpr h

theorem Classification.requests_ofSource (source : String) :
    Event.requests (ofSource source).2 = [] :=
  Event.requests_eq_nil
    (forall_ofSource (P := fun event => event.request? = none) rfl (fun _ => rfl)
      (fun _ _ => rfl) source)

theorem Cache.requests_insert (cache : Cache) (key : Fingerprint) (program : Program) :
    Event.requests (cache.insert key program).trace = [] :=
  Event.requests_eq_nil
    (forall_insert_trace (P := fun event => event.request? = none) (fun _ => rfl) cache key program)

theorem Call.requests_begun (options : Options) (call : Call) :
    Event.requests (call.begun options) = [] :=
  Event.requests_eq_nil
    (forall_begun (P := fun event => event.request? = none) (fun _ _ => rfl) (fun _ => rfl) _ _)

/-! ## The endings -/

namespace Context

/-- A call has a name, a source and a root, and this is its request. -/
structure Ready (context : Context) (call : Call) (request : Request) : Prop where
  name : call.name ≠ ""
  source : call.source ≠ ""
  root : ∃ root trimmed, call.env context.options.rootVariable = some root ∧ root ≠ "" ∧
    TrimsTo root trimmed ∧ request =
      { name := call.name
        source := call.source
        variant := context.options.variant
        includeFlags := context.options.kernelDirs.map ("-I" ++ ·) ++
          context.options.systemDirs.map ("-I" ++ ·) ++ ["-I" ++ trimmed ++ "/include"]
        device := context.device }

/-- The ways in which a call can end, with what the backend is asked for. -/
inductive Ending (context : Context) (call : Call) :
    Outcome (Shared Operator) → List Request → Prop where
  | nameless (hname : call.name = "") :
      Ending context call (.failed (.invalidArgument "kernel name is empty")) []
  | sourceless (hname : call.name ≠ "") (hsource : call.source = "") :
      Ending context call
        (.failed (.invalidArgument ("kernel '" ++ call.name ++ "' has empty source"))) []
  | rootless (hname : call.name ≠ "") (hsource : call.source ≠ "")
      (hroot : call.env.Unset context.options.rootVariable) :
      Ending context call (.failed (.missingToolchainRoot context.options.rootVariable)) []
  | cached {request : Request} {entry : Cache.Entry} (hready : Ready context call request)
      (hfind : context.cache.find? (Fingerprint.ofRequest request) = some entry) :
      Ending context call
        (.done ⟨context.operators.registered, call.operator entry.program⟩) []
  | rejected {request : Request} {failure : Failure} (hready : Ready context call request)
      (hfind : context.cache.find? (Fingerprint.ofRequest request) = none)
      (hanswer : context.backend.answer context.backend.received request = .failed failure) :
      Ending context call (.failed failure) [request]
  | crashed {request : Request} {text : String} (hready : Ready context call request)
      (hfind : context.cache.find? (Fingerprint.ofRequest request) = none)
      (hanswer : context.backend.answer context.backend.received request = .crashed text) :
      Ending context call (.crashed text) [request]
  | compiled {request : Request} {program : Program} (hready : Ready context call request)
      (hfind : context.cache.find? (Fingerprint.ofRequest request) = none)
      (hanswer : context.backend.answer context.backend.received request = .done program) :
      Ending context call
        (.done ⟨context.operators.registered, call.operator
          ⟨context.cache.stored, program.tag (Fingerprint.ofRequest request)⟩⟩) [request]

variable {context : Context} {call : Call} {request : Request}

theorem ready_iff :
    Ready context call request ↔ call.prepare context.device context.options = .ok request := by
  constructor
  · intro h
    obtain ⟨root, trimmed, hset, hne, htrim, hrequest⟩ := h.root
    unfold Call.prepare
    rw [if_neg h.name, if_neg h.source, Options.root_of_set hset hne, hrequest]
    dsimp only
    unfold Options.includeFlags
    rw [trimsTo_iff.mp htrim, List.map_append]
  · intro h
    obtain ⟨hname, hsource, root, hroot, hrequest⟩ := Call.of_prepare_ok h
    obtain ⟨hset, hne⟩ := Options.root_eq_ok_iff.mp hroot
    refine ⟨hname, hsource, root, _, hset, hne, trimsTo_trimSlashes root, ?_⟩
    rw [hrequest, Options.includeFlags, List.map_append]

/-- What is seen of a call: its result, and what the backend is asked for. -/
def Ends (context : Context) (call : Call) (result : Outcome (Shared Operator))
    (requests : List Request) : Prop :=
  (context.call call).result = result ∧ Event.requests (context.call call).trace = requests ∧
    (context.call call).state.backend.received = context.backend.received ++ requests

theorem ends_of_refused {failure : Failure}
    (h : call.prepare context.device context.options = .error failure) :
    Ends context call (.failed failure) [] := by
  unfold Ends
  rw [call_of_refused h]
  exact ⟨rfl, Call.requests_begun _ _, (List.append_nil _).symm⟩

/-- A call that asks the cache ends with what it makes of the answer, and nobody but the
cache asks the backend. -/
theorem ends_of_prepared (h : call.prepare context.device context.options = .ok request)
    {step : Step (Cache × Backend) (Outcome (Shared Program))} (hask : context.ask request = step)
    {requests : List Request} (htrace : Event.requests step.trace = requests)
    (hreceived : step.state.2.received = context.backend.received ++ requests) :
    Ends context call
      (step.result.map fun program => ⟨context.operators.registered, call.operator program⟩)
      requests := by
  subst hask
  have hasking : Event.requests (context.asking call request) = requests := by
    unfold asking
    rw [Event.requests_append, Event.requests_append, Call.requests_begun,
      Classification.requests_ofSource, htrace]
    rfl
  have hafter : ∀ step : Step Context (Outcome (Shared Operator)),
      Event.requests step.trace = [] →
        Event.requests (step.after (context.asking call request)).trace = requests := by
    intro step hstep
    show Event.requests (context.asking call request ++ step.trace) = _
    rw [Event.requests_append, hasking, hstep, List.append_nil]
  unfold Ends
  rw [call_of_prepared h]
  cases (context.ask request).result with
  | done program =>
    rw [finish, register_eq]
    refine ⟨rfl, hafter _ ?_, hreceived⟩
    cases ((context.asked request).operators.find? call.name).isSome <;> rfl
  | failed failure => exact ⟨rfl, hafter _ rfl, hreceived⟩
  | crashed text => exact ⟨rfl, hafter _ rfl, hreceived⟩

/-- Every way of ending is what a call does in that case. -/
theorem Ending.ends {result : Outcome (Shared Operator)} {requests : List Request}
    (h : Ending context call result requests) : Ends context call result requests := by
  cases h with
  | nameless hname => exact ends_of_refused (if_pos hname)
  | sourceless hname hsource =>
    exact ends_of_refused ((if_neg hname).trans (if_pos hsource))
  | rootless hname hsource hroot =>
    refine ends_of_refused ((if_neg hname).trans ((if_neg hsource).trans ?_))
    rw [Options.root_of_unset hroot]
  | cached hready hfind =>
    exact ends_of_prepared (ready_iff.mp hready) (Cache.getOrCompile_of_hit hfind) rfl
      (List.append_nil _).symm
  | rejected hready hfind hanswer =>
    exact ends_of_prepared (ready_iff.mp hready) (Cache.getOrCompile_of_failed hfind hanswer)
      rfl rfl
  | crashed hready hfind hanswer =>
    exact ends_of_prepared (ready_iff.mp hready) (Cache.getOrCompile_of_crashed hfind hanswer)
      rfl rfl
  | @compiled request program hready hfind hanswer =>
    have hstored := Cache.insert_result context.cache.missed (Fingerprint.ofRequest request) program
    rw [show context.cache.stored = context.cache.missed.stored from rfl, ← hstored]
    refine ends_of_prepared (ready_iff.mp hready) (Cache.getOrCompile_of_done hfind hanswer) ?_ rfl
    show Event.requests (_ ++ _) = _
    rw [Event.requests_append, Cache.requests_insert]
    rfl

/-- The ways of ending leave nothing out. -/
theorem exists_ending (context : Context) (call : Call) :
    ∃ result requests, Ending context call result requests := by
  by_cases hname : call.name = ""
  · exact ⟨_, _, .nameless hname⟩
  · by_cases hsource : call.source = ""
    · exact ⟨_, _, .sourceless hname hsource⟩
    · rcases context.options.unset_or_set call.env with hroot | ⟨root, hset, hne⟩
      · exact ⟨_, _, .rootless hname hsource hroot⟩
      · have hready : Ready context call _ :=
          ⟨hname, hsource, root, _, hset, hne, trimsTo_trimSlashes root, rfl⟩
        cases hfind : context.cache.find? (Fingerprint.ofRequest _) with
        | some entry => exact ⟨_, _, .cached hready hfind⟩
        | none =>
          cases hanswer : context.backend.answer context.backend.received _ with
          | done program => exact ⟨_, _, .compiled hready hfind hanswer⟩
          | failed failure => exact ⟨_, _, .rejected hready hfind hanswer⟩
          | crashed text => exact ⟨_, _, .crashed hready hfind hanswer⟩

theorem ending_iff_ends {result : Outcome (Shared Operator)} {requests : List Request} :
    Ending context call result requests ↔ Ends context call result requests := by
  constructor
  · exact Ending.ends
  · intro h
    obtain ⟨result', requests', hending⟩ := exists_ending context call
    obtain ⟨hresult, hrequests, _⟩ := hending.ends
    obtain rfl := hresult.symm.trans h.1
    obtain rfl := hrequests.symm.trans h.2.1
    exact hending

/-- In every context a call ends in exactly one of the listed ways, and the backend is asked
for what the way says, at most once.  The call answers a fault of the library exactly if the
backend, being asked, has answered this fault. -/
theorem call_ending (context : Context) (call : Call) :
    (∀ result requests, Ending context call result requests ↔ Ends context call result requests) ∧
    Ends context call (context.call call).result (Event.requests (context.call call).trace) ∧
    (Event.requests (context.call call).trace).length ≤ 1 ∧
    (∀ message, (context.call call).result = .failed (.internalFault message) ↔
      ∃ request, Ready context call request ∧
        context.cache.find? (Fingerprint.ofRequest request) = none ∧
        context.backend.answer context.backend.received request =
          .failed (.internalFault message)) := by
  obtain ⟨result, requests, hending⟩ := exists_ending context call
  obtain ⟨hresult, hrequests, hreceived⟩ := hending.ends
  refine ⟨fun _ _ => ending_iff_ends, ?_, ?_, ?_⟩
  · rw [hresult, hrequests]
    exact hending.ends
  · rw [hrequests]
    cases hending <;> simp
  · intro message
    rw [hresult]
    constructor
    · intro h
      cases hending with
      | rejected hready hfind hanswer =>
        cases h
        exact ⟨_, hready, hfind, hanswer⟩
      | _ => cases h
    · intro h
      obtain ⟨request, hready, hfind, hanswer⟩ := h
      have hrejected := (Ending.rejected hready hfind hanswer).ends
      exact hresult.symm.trans hrejected.1

end Context
end KernelJit
