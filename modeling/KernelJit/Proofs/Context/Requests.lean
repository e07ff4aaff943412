/-
The requests that the calls of a context come to.

A call that is not refused comes to a request, for which the context asks its cache.  So
what becomes of the cache and the backend of a context is the run of the cache over the
requests of the calls (`stock_reached`), and each operator that a call answers has the
program of a turn of that run (`exists_turn_of_done`).  Requests of one run with the same
fingerprint ask for the same kernel, as long as the digest does not collide on them
(`eq_of_fingerprint_eq`).
-/
import KernelJit.Proofs.Cache.Ledger
import KernelJit.Proofs.Context.Call
import KernelJit.Proofs.Preimage

namespace KernelJit

/-- The digest does not collide on the preimages of requests. -/
def Fingerprint.CollisionFree (requests : List Request) : Prop :=
  ∀ r ∈ requests, ∀ s ∈ requests,
    Sha256.digest (preimage r) = Sha256.digest (preimage s) → preimage r = preimage s

instance (requests : List Request) : Decidable (Fingerprint.CollisionFree requests) :=
  inferInstanceAs (Decidable (∀ r ∈ requests, ∀ s ∈ requests, _ → _))

namespace Context

/-- The requests that calls come to. -/
def requests (device : UInt32) (options : Options) (calls : List Call) : List Request :=
  calls.filterMap fun call => (call.prepare device options).toOption

theorem mem_requests {device : UInt32} {options : Options} {calls : List Call} {r : Request} :
    r ∈ requests device options calls ↔
      ∃ call ∈ calls, call.prepare device options = .ok r := by
  rw [requests, List.mem_filterMap]
  refine exists_congr fun call => and_congr_right fun _ => ?_
  cases call.prepare device options with
  | error failure => exact ⟨fun h => (nomatch h), fun h => (nomatch h)⟩
  | ok request =>
    exact ⟨fun h => congrArg Except.ok (Option.some.inj h),
      fun h => congrArg some (Except.ok.inj h)⟩

theorem requests_cons_of_error {device : UInt32} {options : Options} {call : Call}
    {failure : Failure} (h : call.prepare device options = .error failure) (rest : List Call) :
    requests device options (call :: rest) = requests device options rest :=
  List.filterMap_cons_none (by rw [h]; rfl)

theorem requests_cons_of_ok {device : UInt32} {options : Options} {call : Call} {request : Request}
    (h : call.prepare device options = .ok request) (rest : List Call) :
    requests device options (call :: rest) = request :: requests device options rest :=
  List.filterMap_cons_some (by rw [h]; rfl)

/-- Requests of one run with the same fingerprint differ in their names alone. -/
theorem eq_of_fingerprint_eq {device : UInt32} {options : Options} {calls : List Call}
    (hfits : ∀ request ∈ requests device options calls, request.Fits)
    (hcollision : Fingerprint.CollisionFree (requests device options calls)) {r s : Request}
    (hr : r ∈ requests device options calls) (hs : s ∈ requests device options calls)
    (h : Fingerprint.ofRequest r = Fingerprint.ofRequest s) : s = { r with name := s.name } := by
  have hdigest : Sha256.digest (Fingerprint.preimage r) = Sha256.digest (Fingerprint.preimage s) :=
    congrArg Fingerprint.bytes h
  obtain ⟨hsource, hvariant, hflags⟩ :=
    Fingerprint.preimage_inj (hfits r hr) (hfits s hs) (hcollision r hr s hs hdigest)
  have hdevice : ∀ request ∈ requests device options calls, request.device = device := by
    intro request hmem
    obtain ⟨call, _, hprepare⟩ := mem_requests.mp hmem
    obtain ⟨_, _, root, _, rfl⟩ := Call.of_prepare_ok hprepare
    rfl
  have hsame : r.device = s.device := (hdevice r hr).trans (hdevice s hs).symm
  cases s
  rw [hsource, hvariant, hflags, hsame]

theorem fingerprint_eq_iff {device : UInt32} {options : Options} {calls : List Call}
    (hfits : ∀ request ∈ requests device options calls, request.Fits)
    (hcollision : Fingerprint.CollisionFree (requests device options calls)) {r s : Request}
    (hr : r ∈ requests device options calls) (hs : s ∈ requests device options calls) :
    Fingerprint.ofRequest r = Fingerprint.ofRequest s ↔
      r.source = s.source ∧ r.variant = s.variant ∧ r.includeFlags = s.includeFlags := by
  constructor
  · intro h
    rw [eq_of_fingerprint_eq hfits hcollision hr hs h]
    exact ⟨rfl, rfl, rfl⟩
  · intro h
    obtain ⟨hsource, hvariant, hflags⟩ := h
    unfold Fingerprint.ofRequest Fingerprint.preimage
    rw [hsource, hvariant, hflags]

/-! ## The run of the cache -/

/-- What a context gets its programs from: its cache and its backend. -/
def stock (context : Context) : Cache × Backend :=
  (context.cache, context.backend)

variable {context : Context} {call : Call} {request : Request}

theorem stock_call_of_error {failure : Failure}
    (h : call.prepare context.device context.options = .error failure) :
    (context.call call).state.stock = context.stock := by
  rw [call_of_refused h]

theorem stock_call_of_ok (h : call.prepare context.device context.options = .ok request) :
    (context.call call).state.stock = (Cache.supply context.stock request).state := by
  rw [call_of_prepared h]
  show ((context.asked request).finish call (context.ask request).result).state.stock = _
  cases (context.ask request).result with
  | done program =>
    rw [finish, register_eq]
    rfl
  | failed failure => rfl
  | crashed text => rfl

theorem stock_reached (context : Context) (calls : List Call) :
    (context.reached calls).stock =
      Run.final Cache.supply context.stock (requests context.device context.options calls) := by
  induction calls generalizing context with
  | nil => rfl
  | cons call rest ih =>
    have hrest := ih (context.call call).state
    rw [device_call, options_call] at hrest
    cases hprepare : call.prepare context.device context.options with
    | error failure =>
      rw [stock_call_of_error hprepare] at hrest
      rw [requests_cons_of_error hprepare]
      exact hrest
    | ok request =>
      rw [stock_call_of_ok hprepare] at hrest
      rw [requests_cons_of_ok hprepare]
      exact hrest

/-- A call that answers an operator has got its program in a turn of the cache. -/
theorem exists_turn_of_done {calls : List Call}
    {turn : Turn Call Context (Outcome (Shared Operator))} (hmem : turn ∈ context.history calls)
    {operator : Shared Operator} (hdone : turn.step.result = .done operator) :
    ∃ answered ∈ Run.turns Cache.supply context.stock
        (requests context.device context.options calls),
      turn.command.prepare context.device context.options = .ok answered.command ∧
        answered.step.result = .done operator.value.program := by
  induction calls generalizing context with
  | nil => exact absurd hmem List.not_mem_nil
  | cons call rest ih =>
    rcases List.mem_cons.mp hmem with rfl | hrest
    · obtain ⟨request, program, hprepare, hask, hresult, _⟩ | ⟨hfail, _⟩ := call_cases context call
      · obtain rfl := Outcome.done.inj (hresult.symm.trans hdone)
        rw [requests_cons_of_ok hprepare]
        exact ⟨⟨request, Cache.supply context.stock request⟩, List.mem_cons_self, hprepare, hask⟩
      · exact absurd hdone (hfail operator)
    · have hlater := ih hrest
      rw [device_call, options_call] at hlater
      cases hprepare : call.prepare context.device context.options with
      | error failure =>
        rw [stock_call_of_error hprepare] at hlater
        rw [requests_cons_of_error hprepare]
        exact hlater
      | ok request =>
        rw [stock_call_of_ok hprepare] at hlater
        rw [requests_cons_of_ok hprepare]
        obtain ⟨answered, hanswered, hlast⟩ := hlater
        exact ⟨answered, List.mem_cons_of_mem _ hanswered, hlast⟩

end Context
end KernelJit
