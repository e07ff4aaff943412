/-
The events that a call consists of.

A call that is refused stops after its beginning.  A call that comes to a request begins,
classifies its source, asks the cache and finishes, and its events are those of these parts, in
this order.  For each part there is a lemma that lists the events it can have, so that a
property of all events of a call is checked once for each kind of event
(`Context.forall_call`).
-/
import KernelJit.Proofs.Context.Call
import KernelJit.Proofs.ToolchainRoot

namespace KernelJit

variable {P : Event → Prop}

theorem Classification.forall_report (hwarned : ∀ warning, P (.warned warning))
    (hclassified : ∀ aggregation reducer, P (.classified aggregation reducer))
    (c : Classification) : ∀ event ∈ (report c).2, P event := by
  intro event hmem
  rcases List.mem_append.mp hmem with hwarning | hlast
  · obtain ⟨warning, _, rfl⟩ := List.mem_map.mp hwarning
    exact hwarned warning
  · rw [List.mem_singleton.mp hlast]
    exact hclassified _ _

theorem Classification.forall_ofSource (hundeclared : P .undeclared)
    (hwarned : ∀ warning, P (.warned warning))
    (hclassified : ∀ aggregation reducer, P (.classified aggregation reducer))
    (source : String) : ∀ event ∈ (ofSource source).2, P event := by
  have hreducer : ∀ aggregation warnings,
      ∀ event ∈ (withReducer aggregation warnings source).2, P event := by
    intro aggregation warnings
    simp only [withReducer]
    cases read reducerMarker reducerTokens source <;> exact forall_report hwarned hclassified _
  simp only [ofSource]
  cases read aggregationMarker aggregationTokens source with
  | absent =>
    intro event hmem
    rw [List.mem_singleton.mp hmem]
    exact hundeclared
  | unknown near => exact hreducer _ _
  | known aggregation =>
    cases aggregation with
    | cellwise =>
      intro event hmem
      cases hmem
    | _ => exact hreducer _ _

theorem Call.forall_begun (hcompiling : ∀ kernel source, P (.compiling kernel source))
    (hunset : ∀ var, P (.rootUnset var)) (options : Options) (call : Call) :
    ∀ event ∈ call.begun options, P event := by
  by_cases hempty : call.name = "" ∨ call.source = ""
  · intro event hmem
    rw [begun, if_pos hempty] at hmem
    cases hmem
  · rw [begun, if_neg hempty, List.forall_mem_cons]
    refine ⟨hcompiling _ _, ?_⟩
    rcases options.unset_or_set call.env with hroot | ⟨root, hset, hne⟩
    · rw [Options.root_of_unset hroot]
      intro event hmem
      rw [List.mem_singleton.mp hmem]
      exact hunset _
    · rw [Options.root_of_set hset hne]
      intro event hmem
      cases hmem

/-- All that an insertion tells of is what it puts out. -/
theorem Cache.forall_insert_trace (hevicted : ∀ key, P (.evicted key)) (cache : Cache)
    (key : Fingerprint) (program : Program) :
    ∀ event ∈ (cache.insert key program).trace, P event := by
  intro event hmem
  obtain ⟨gone, rfl⟩ := evicted_of_mem_makeRoom hmem
  exact hevicted gone

theorem Cache.forall_getOrCompile_trace {cache : Cache} {backend : Backend} {request : Request}
    (hhit : ∀ key, P (.cacheHit request.name key))
    (hcalling : ∀ event ∈ calling backend request, P event)
    (hevicted : ∀ key, P (.evicted key)) :
    ∀ event ∈ (cache.getOrCompile backend request).trace, P event := by
  cases hfind : cache.find? (Fingerprint.ofRequest request) with
  | some entry =>
    rw [getOrCompile_of_hit hfind]
    intro event hmem
    rw [List.mem_singleton.mp hmem]
    exact hhit _
  | none =>
    cases hanswer : backend.answer backend.received request with
    | done program =>
      rw [getOrCompile_of_done hfind hanswer]
      intro event hmem
      rcases List.mem_append.mp hmem with hbefore | hinsert
      · exact hcalling event hbefore
      · exact forall_insert_trace hevicted _ _ _ event hinsert
    | failed failure =>
      rw [getOrCompile_of_failed hfind hanswer]
      exact hcalling
    | crashed text =>
      rw [getOrCompile_of_crashed hfind hanswer]
      exact hcalling

namespace Context

theorem forall_finish (hfailed : ∀ kernel failure, P (.compileFailed kernel failure))
    (hreplaced : ∀ kernel, P (.replaced kernel)) (context : Context) (call : Call)
    (outcome : Outcome (Shared Program)) :
    ∀ event ∈ (context.finish call outcome).trace, P event := by
  intro event hmem
  cases outcome with
  | done program =>
    rw [finish, register_eq] at hmem
    by_cases hfound : (context.operators.find? call.name).isSome = true
    · rw [if_pos hfound, List.mem_singleton] at hmem
      rw [hmem]
      exact hreplaced _
    · rw [if_neg hfound] at hmem
      cases hmem
  | failed failure =>
    rw [List.mem_singleton.mp hmem]
    exact hfailed _ _
  | crashed text => cases hmem

/-- A property of all events of a call, part by part. -/
theorem forall_call {context : Context} {call : Call}
    (hbegun : ∀ event ∈ call.begun context.options, P event)
    (hsource : ∀ event ∈ (Classification.ofSource call.source).2, P event)
    (hask : ∀ request, ∀ event ∈ (context.ask request).trace, P event)
    (hfinish : ∀ current : Context, ∀ outcome, ∀ event ∈ (current.finish call outcome).trace,
      P event) :
    ∀ event ∈ (context.call call).trace, P event := by
  cases hprepare : call.prepare context.device context.options with
  | error failure =>
    rw [call_of_refused hprepare]
    exact hbegun
  | ok request =>
    rw [call_of_prepared hprepare]
    intro event hmem
    rcases List.mem_append.mp hmem with hbefore | hend
    · rcases List.mem_append.mp hbefore with hfirst | hrest
      · exact hbegun event hfirst
      · rcases List.mem_append.mp hrest with hclassified | hasked
        · exact hsource event hclassified
        · exact hask request event hasked
    · exact hfinish _ _ event hend

end Context
end KernelJit
