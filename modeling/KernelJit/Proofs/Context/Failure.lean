/-
Calls that fail leave no trace but a tally.

A call can fail before the cache is asked, or because the backend fails or crashes.
Either way the context is the one before, except that the count of misses and the
list of requests that the backend has had grow by one if the backend was called
(`call_of_not_done`).  With a backend that is a function of the request nothing else
ever depends on the two, so failing calls can be deleted from a run: the calls that are
kept have the same results, the same events, evictions among them, and lead to the
same states, up to the tally (`history_thinned`).
-/
import KernelJit.Proofs.Cache.Tally
import KernelJit.Proofs.Context.Call

namespace KernelJit
namespace Context

/-- The context with another tally: the count of misses and the requests that the backend
has had. -/
def retally (context : Context) (misses : UInt64) (received : List Request) : Context :=
  { context with
    cache := context.cache.withMisses misses
    backend := { context.backend with received } }

/-- The context without its tally. -/
def cleared (context : Context) : Context :=
  context.retally 0 []

theorem eq_retally_of_cleared_eq {a b : Context} (h : a.cleared = b.cleared) :
    b = a.retally b.cache.misses b.backend.received := by
  have hb : b = b.cleared.retally b.cache.misses b.backend.received := rfl
  rw [← h] at hb
  exact hb

/-- A call that does not succeed changes the tally alone, by the one request that the
backend had on the way, if it had one. -/
theorem call_of_not_done {context : Context} {call : Call}
    (hfail : ∀ operator, (context.call call).result ≠ .done operator) :
    ∃ had : List Request, had.length ≤ 1 ∧
      (context.call call).state = context.retally
        (context.cache.misses + UInt64.ofNat had.length) (context.backend.received ++ had) := by
  obtain ⟨_, _, _, _, hresult, _⟩ | ⟨_, hstate | ⟨request, _, hask, hstate⟩⟩ :=
    call_cases context call
  · exact absurd hresult (hfail _)
  · refine ⟨[], Nat.zero_le 1, hstate.trans ?_⟩
    show context = context.retally (context.cache.misses + 0) (context.backend.received ++ [])
    rw [UInt64.add_zero, List.append_nil]
    rfl
  · refine ⟨[request], Nat.le_refl 1, hstate.trans ?_⟩
    have hasked : (context.ask request).state =
        (context.cache.missed, context.backend.asked request) :=
      Cache.state_of_getOrCompile_not_done hask
    unfold asked
    rw [hasked]
    rfl

theorem finish_congr {a b : Context} (h : a.cleared = b.cleared) (call : Call)
    (result : Outcome (Shared Program)) :
    (a.finish call result).result = (b.finish call result).result ∧
      (a.finish call result).trace = (b.finish call result).trace ∧
      (a.finish call result).state.cleared = (b.finish call result).state.cleared := by
  rw [eq_retally_of_cleared_eq h]
  cases result with
  | done program =>
    rw [finish, finish, register_eq, register_eq]
    exact ⟨rfl, rfl, rfl⟩
  | failed failure => exact ⟨rfl, rfl, rfl⟩
  | crashed text => exact ⟨rfl, rfl, rfl⟩

/-- A call is not influenced by the tally. -/
theorem call_retally {context : Context} (hpure : context.backend.Pure) (misses : UInt64)
    (received : List Request) (call : Call) :
    let other := (context.retally misses received).call call
    other.result = (context.call call).result ∧ other.trace = (context.call call).trace ∧
      other.state.cleared = (context.call call).state.cleared := by
  intro other
  cases hprepare : call.prepare context.device context.options with
  | error failure =>
    have hprepare' : call.prepare (context.retally misses received).device
        (context.retally misses received).options = .error failure := hprepare
    rw [show other = _ from call_of_refused hprepare', call_of_refused hprepare]
    exact ⟨rfl, rfl, rfl⟩
  | ok request =>
    have hprepare' : call.prepare (context.retally misses received).device
        (context.retally misses received).options = .ok request := hprepare
    obtain ⟨hresult, htrace, hstate⟩ :=
      Cache.getOrCompile_tally hpure context.cache misses received request
    have hcleared : ((context.retally misses received).asked request).cleared =
        (context.asked request).cleared :=
      congrArg (fun state : Cache × Backend =>
        { context with cache := state.1, backend := state.2 }) hstate
    have hasking : (context.retally misses received).asking call request =
        context.asking call request :=
      congrArg (fun trace => _ ++ (_ ++ trace)) htrace
    have hask : ((context.retally misses received).ask request).result =
        (context.ask request).result := hresult
    rw [show other = _ from call_of_prepared hprepare', call_of_prepared hprepare, hasking, hask]
    obtain ⟨hsame, htail, hafter⟩ := finish_congr hcleared call (context.ask request).result
    exact ⟨hsame, congrArg (context.asking call request ++ ·) htail, hafter⟩

theorem pure_call {context : Context} (hpure : context.backend.Pure) (call : Call) :
    (context.call call).state.backend.Pure := by
  unfold Backend.Pure
  rw [answer_call]
  exact hpure

/-! ## Deleting failing calls -/

/-- `kept` is what is left of the turns of a run when some failing ones are deleted. -/
inductive Thinned : List (Turn Call Context (Outcome (Shared Operator))) →
    List (Turn Call Context (Outcome (Shared Operator))) → Prop
  | nil : Thinned [] []
  | keep (turn) {turns kept} : Thinned turns kept → Thinned (turn :: turns) (turn :: kept)
  | delete (turn) {turns kept} (hfail : ∀ operator, turn.step.result ≠ .done operator) :
      Thinned turns kept → Thinned (turn :: turns) kept

/-- A turn without the tally of the context that it leads to. -/
def untallied (turn : Turn Call Context (Outcome (Shared Operator))) :
    Turn Call Context (Outcome (Shared Operator)) :=
  { turn with step := { turn.step with state := turn.step.state.cleared } }

theorem history_thinned {a b : Context} (hpure : a.backend.Pure) (h : a.cleared = b.cleared)
    {calls : List Call} {kept : List (Turn Call Context (Outcome (Shared Operator)))}
    (hthin : Thinned (a.history calls) kept) :
    (b.history (kept.map (·.command))).map untallied = kept.map untallied ∧
      (b.reached (kept.map (·.command))).cleared = (a.reached calls).cleared := by
  -- The shorter run starts in any state that is the same up to the tally, so that a
  -- deleted call asks for no step of it.
  induction calls generalizing a b kept with
  | nil =>
    cases hthin
    exact ⟨rfl, h.symm⟩
  | cons call rest ih =>
    cases hthin with
    | keep _ htail =>
      obtain ⟨hresult, htrace, hstate⟩ :=
        call_retally hpure b.cache.misses b.backend.received call
      rw [← eq_retally_of_cleared_eq h] at hresult htrace hstate
      obtain ⟨hrest, hreached⟩ := ih (pure_call hpure call) hstate.symm htail
      have hturn : untallied ⟨call, b.call call⟩ = untallied ⟨call, a.call call⟩ := by
        show Turn.mk call (Step.mk (b.call call).result (b.call call).state.cleared
          (b.call call).trace) = _
        rw [hresult, htrace, hstate]
        rfl
      exact ⟨List.cons_eq_cons.mpr ⟨hturn, hrest⟩, hreached⟩
    | delete _ hfail htail =>
      obtain ⟨had, _, hstate⟩ := call_of_not_done hfail
      have hcleared : (a.call call).state.cleared = b.cleared := by
        rw [hstate]
        exact h
      exact ih (pure_call hpure call) hcleared htail

/-- Calls that fail are invisible.  One of them leaves the device, the options, the
registry and the whole cache as they were, but for the count of misses, which grows by
the requests that the backend had meanwhile: none, or one.  With a backend that is a
function of the request, deleting any of them from a run changes no other turn and
leads to the same context, up to the tally. -/
theorem failures_invisible (context : Context) :
    (∀ call, (∀ operator, (context.call call).result ≠ .done operator) →
      (context.call call).state.device = context.device ∧
      (context.call call).state.options = context.options ∧
      (context.call call).state.operators = context.operators ∧
      ∃ had : List Request, had.length ≤ 1 ∧
        (context.call call).state.backend =
          { context.backend with received := context.backend.received ++ had } ∧
        (context.call call).state.cache =
          { context.cache with
            misses := context.cache.misses + UInt64.ofNat had.length }) ∧
    (context.backend.Pure → ∀ calls kept, Thinned (context.history calls) kept →
      (context.history (kept.map (·.command))).map untallied = kept.map untallied ∧
        (context.reached (kept.map (·.command))).cleared = (context.reached calls).cleared) := by
  constructor
  · intro call hfail
    obtain ⟨had, hlength, hstate⟩ := call_of_not_done hfail
    rw [hstate]
    exact ⟨rfl, rfl, rfl, had, hlength, rfl, rfl⟩
  · intro hpure calls kept hthin
    exact history_thinned hpure rfl hthin

theorem failures_invisible_rejected :
    let env : Environment := fun _ => some "/"
    let context := create 0 { kernelDirs := [], systemDirs := [], cacheMegabytes := 0 }
      (.rejecting "b") .oldest
    let registered := (context.call ⟨env, "a", "k"⟩).state
    let kept : List (Turn Call Context (Outcome (Shared Operator))) :=
      (context.history [⟨env, "a", "k"⟩, ⟨env, "b", "k"⟩, ⟨env, "a", "m"⟩]).eraseIdx 1
    (registered.call ⟨env, "b", "k"⟩).state.operators = registered.operators ∧
      (context.history (kept.map (·.command))).map untallied = kept.map untallied := by
  intro env context registered kept
  have hfail : ∀ operator, (registered.call ⟨env, "b", "k"⟩).result ≠ .done operator := by
    intro operator hdone
    have hfailed : (registered.call ⟨env, "b", "k"⟩).result =
        .failed (.compilationFailed "k" "rejected") := by
      decide +kernel
    cases hfailed.symm.trans hdone
  have hthin : Thinned (context.history [⟨env, "a", "k"⟩, ⟨env, "b", "k"⟩, ⟨env, "a", "m"⟩]) kept :=
    .keep _ (.delete _ hfail (.keep _ .nil))
  constructor
  · exact ((failures_invisible registered).1 ⟨env, "b", "k"⟩ hfail).2.2.1
  · exact ((failures_invisible context).2 (fun _ _ => rfl) _ kept hthin).1

end Context
end KernelJit
