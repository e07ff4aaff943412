/-
No program of another device or variant is served.

The key of a cache entry leaves the device out, so contexts for different devices compile the
same kernel under the same key.  What keeps their programs apart is that a context shares its
cache with nobody and asks for one device and one variant in all its requests.  `Uniform` is this
invariant: with a backend that tags what it compiles as it was asked to, every program that is
cached or registered carries the tags of the context.  A call keeps it, by a hit as by a miss,
and what the call answers carries the tags too.
-/
import KernelJit.Proofs.Session.Every

namespace KernelJit

/-- A backend that tags each program with the device and the variant of the request. -/
def Backend.Tags (backend : Backend) : Prop :=
  ∀ received request program, backend.answer received request = .done program →
    program.device = request.device ∧ program.variant = request.variant

theorem Backend.tags_disabled : Backend.disabled.Tags :=
  fun _ _ _ h => nomatch h

namespace Context

/-- A program is one for the device and the variant of a context. -/
def Owns (context : Context) (program : Program) : Prop :=
  program.device = context.device ∧ program.variant = context.options.variant

/-- The backend tags its programs, and all that is cached or registered has the tags of the
context. -/
structure Uniform (context : Context) : Prop where
  backend : context.backend.Tags
  cached : ∀ entry ∈ context.cache.entries, context.Owns entry.program.value
  registered : ∀ entry ∈ context.operators.entries, context.Owns entry.2.value.program.value

variable {context : Context} {request : Request}

theorem uniform_create (device : UInt32) (options : Options) {backend : Backend}
    (h : backend.Tags) (ties : TieBreak) : (create device options backend ties).Uniform where
  backend := h
  cached := List.forall_mem_nil _
  registered := List.forall_mem_nil _

theorem owns_call_iff {call : Call} {program : Program} :
    (context.call call).state.Owns program ↔ context.Owns program := by
  unfold Owns
  rw [device_call, options_call]

theorem Uniform.asked (h : context.Uniform) {call : Call}
    (hprepare : call.prepare context.device context.options = .ok request) :
    ∀ entry ∈ (context.asked request).cache.entries, context.Owns entry.program.value := by
  refine Cache.forall_getOrCompile (P := fun entry => context.Owns entry.program.value)
    (fun _ howns => howns) h.cached ?_
  intro program id hanswer
  obtain ⟨_, _, root, _, rfl⟩ := Call.of_prepare_ok hprepare
  exact h.backend _ _ program hanswer

theorem Uniform.ask (h : context.Uniform) {call : Call}
    (hprepare : call.prepare context.device context.options = .ok request)
    {program : Shared Program} (hask : (context.ask request).result = .done program) :
    context.Owns program.value := by
  obtain ⟨entry, hmem, _, rfl⟩ := Cache.exists_of_getOrCompile_done hask
  exact h.asked hprepare entry hmem

theorem Uniform.call (h : context.Uniform) (call : Call) : (context.call call).state.Uniform := by
  have hbackend : (context.call call).state.backend.Tags := by
    unfold Backend.Tags
    rw [answer_call]
    exact h.backend
  rcases call_cases context call with ⟨request, program, hprepare, hask, _, hstate⟩ |
    ⟨_, hstate | ⟨request, hprepare, _, hstate⟩⟩
  · rw [hstate] at hbackend ⊢
    refine ⟨hbackend, h.asked hprepare, ?_⟩
    intro entry hmem
    rcases Registry.mem_place hmem with rfl | hold
    · exact h.ask hprepare hask
    · exact h.registered entry hold
  · rw [hstate]
    exact h
  · rw [hstate] at hbackend ⊢
    exact ⟨hbackend, h.asked hprepare, h.registered⟩

theorem Uniform.answered (h : context.Uniform) {call : Call} {operator : Shared Operator}
    (hdone : (context.call call).result = .done operator) :
    context.Owns operator.value.program.value := by
  rcases call_cases context call with ⟨request, program, hprepare, hask, hresult, _⟩ |
    ⟨hfails, _⟩
  · rw [hresult] at hdone
    cases hdone
    exact h.ask hprepare hask
  · exact absurd hdone (hfails operator)

theorem Uniform.operator? (h : context.Uniform) {name : String} {operator : Shared Operator}
    (hfind : context.operator? name = some operator) :
    context.Owns operator.value.program.value := by
  obtain ⟨entry, hentry, rfl⟩ := Option.map_eq_some_iff.mp hfind
  exact h.registered entry (List.mem_of_find?_eq_some hentry)

/-- Whatever calls a context takes, all that they answer is for its device and its variant. -/
theorem Uniform.history (h : context.Uniform) {calls : List Call}
    {turn : Turn Call Context (Outcome (Shared Operator))} (hturn : turn ∈ context.history calls)
    {operator : Shared Operator} (hdone : turn.step.result = .done operator) :
    context.Owns operator.value.program.value := by
  induction calls generalizing context with
  | nil => cases hturn
  | cons call rest ih =>
    rcases List.mem_cons.mp hturn with rfl | hlater
    · exact h.answered hdone
    · exact owns_call_iff.mp (ih (h.call call) hlater)

end Context

/-! ## Sessions -/

/-- The operator that a reply hands out. -/
def Session.Reply.operator? : Session.Reply → Option (Shared Operator)
  | .compiled (.done operator) => some operator
  | .farewell (.ok ⟨_, .done operator, _⟩) => some operator
  | .found (.ok operator) => operator
  | _ => none

/-- An operator that a session hands out comes from the context of the handle that was given:
it stands in the registry, or a call answers it. -/
theorem Session.exists_of_operator? {session : Session} {command : Session.Command}
    {operator : Shared Operator}
    (h : (session.perform command).result.operator? = some operator) :
    ∃ handle context, command.handle? = some handle ∧ session.contexts.get handle = .ok context ∧
      ((∃ name, context.operator? name = some operator) ∨
        ∃ call, (context.call call).result = .done operator) := by
  have hcompile : ∀ handle env source name,
      Reply.operator? (.compiled (session.compileIn handle env source name).result) =
          some operator →
        ∃ context, session.contexts.get handle = .ok context ∧
          ∃ call, (context.call call).result = .done operator := by
    intro handle env source name h
    cases hget : session.contexts.get handle with
    | error failure =>
      rw [compileIn_of_error hget] at h
      cases h
    | ok context =>
      rw [compileIn_of_ok hget] at h
      refine ⟨context, rfl, ⟨env, source, name⟩, ?_⟩
      cases hresult : (context.call ⟨env, source, name⟩).result with
      | done found =>
        rw [hresult] at h
        exact congrArg Outcome.done (Option.some.inj h)
      | _ =>
        rw [hresult] at h
        cases h
  cases command with
  | compile handle source name =>
    obtain ⟨context, hget, hcall⟩ := hcompile handle _ source name h
    exact ⟨handle, context, rfl, hget, Or.inr hcall⟩
  | compileIn handle env source name =>
    obtain ⟨context, hget, hcall⟩ := hcompile handle env source name h
    exact ⟨handle, context, rfl, hget, Or.inr hcall⟩
  | lookup handle name =>
    change Reply.operator? (.found (session.lookup handle name)) = _ at h
    cases hget : session.contexts.get handle with
    | error failure =>
      simp only [lookup, view, hget] at h
      cases h
    | ok context =>
      simp only [lookup, view, hget] at h
      exact ⟨handle, context, rfl, hget, Or.inl ⟨name, h⟩⟩
  | destroyInside handle device env source name =>
    change Reply.operator? (.farewell (session.destroyInside handle device env source name).result)
      = _ at h
    cases hget : session.contexts.get handle with
    | error failure =>
      rw [destroyInside_of_error hget] at h
      cases h
    | ok context =>
      obtain ⟨_, _, _, _, hstep⟩ := destroyInside_of_ok hget device env source name
      rw [hstep] at h
      refine ⟨handle, context, rfl, hget, Or.inr ⟨⟨env, source, name⟩, ?_⟩⟩
      cases hresult : (context.call ⟨env, source, name⟩).result with
      | done found =>
        rw [hresult] at h
        exact congrArg Outcome.done (Option.some.inj h)
      | _ =>
        rw [hresult] at h
        cases h
  | _ => cases h

namespace Thread

variable {ρ : Type}

/-- A context that stands in the table or is borrowed. -/
def Has (thread : Thread) (context : Context) : Prop :=
  (∃ handle, thread.session.contexts.get handle = .ok context) ∨
    ∃ handle, (handle, context) ∈ thread.borrowed

theorem Every.of_has {P : Context → Prop} {thread : Thread} (h : thread.Every P)
    {context : Context} (hhas : thread.Has context) : P context := by
  rcases hhas with ⟨handle, hget⟩ | ⟨handle, hmem⟩
  · exact h.table.get hget
  · exact h.borrowed _ hmem

theorem uniform_made {act : Act ρ} {ties : TieBreak} {context : Context}
    (hmade : act.made? ties = some context)
    (hbackend : ∀ device options backend,
      act = .call (.createWith device options backend) → backend.Tags) : context.Uniform := by
  cases act with
  | call command =>
    cases command with
    | create device =>
      cases hmade
      exact Context.uniform_create _ _ Backend.tags_disabled _
    | createWith device options backend =>
      cases hmade
      exact Context.uniform_create _ _ (hbackend device options backend rfl) _
    | _ => cases hmade
  | _ => cases hmade

theorem uniform_reached (settings : Settings) (ties : TieBreak) {acts : List (Act ρ)}
    (hbackends : ∀ device options backend,
      Act.call (.createWith device options backend) ∈ acts → backend.Tags)
    (hworks : ∀ act ∈ acts, act.ByCalls) :
    (Run.final perform (fresh settings ties) acts).Every Context.Uniform := by
  refine every_reached settings ties (fun _ call h => h.call call) ?_ hworks
  intro act hmem context hmade
  refine uniform_made hmade ?_
  intro device options backend hact
  exact hbackends device options backend (hact ▸ hmem)

/-- In a run with backends that tag their programs as they were asked to, no program of
another device or variant is served, although the keys of the caches do not tell devices
apart.  In every state of the run, all programs that a context has cached, all that it has
registered and all that any of its calls can answer are for the device and the variant of the
context; and so is each operator that the session hands out. -/
theorem served_tags (settings : Settings) (ties : TieBreak) (acts : List (Act ρ))
    (hbackends : ∀ device options backend,
      Act.call (.createWith device options backend) ∈ acts → backend.Tags)
    (hworks : ∀ act ∈ acts, act.ByCalls) :
    (∀ first, first <+: acts → ∀ context,
      (Run.final perform (fresh settings ties) first).Has context →
        (∀ entry ∈ context.cache.entries, context.Owns entry.program.value) ∧
        (∀ name operator, context.operator? name = some operator →
          context.Owns operator.value.program.value) ∧
        ∀ calls, ∀ turn ∈ context.history calls, ∀ operator,
          turn.step.result = .done operator → context.Owns operator.value.program.value) ∧
    (∀ stage ∈ Run.stages perform (fresh settings ties) acts, ∀ command reply operator,
      stage.2 = .call command → (stage.1.perform stage.2).result = .replied reply →
        reply.operator? = some operator →
        ∃ handle context, command.handle? = some handle ∧
          stage.1.session.contexts.get handle = .ok context ∧
          context.Owns operator.value.program.value) ∧
    ∀ request device,
      Fingerprint.ofRequest { request with device } = Fingerprint.ofRequest request := by
  have hstart : ∀ first, first <+: acts →
      (Run.final perform (fresh settings ties) first).Every Context.Uniform := by
    intro first hfirst
    exact uniform_reached settings ties
      (fun device options backend hmem => hbackends device options backend (hfirst.subset hmem))
      (fun act hmem => hworks act (hfirst.subset hmem))
  refine ⟨?_, ?_, fun _ _ => rfl⟩
  · intro first hfirst context hhas
    have huniform := (hstart first hfirst).of_has hhas
    exact ⟨huniform.cached, fun _ _ hfind => huniform.operator? hfind,
      fun _ _ hturn _ hdone => huniform.history hturn hdone⟩
  · intro stage hmem command reply operator hact hreply hoperator
    obtain ⟨before, after, hsplit, hstate⟩ := Run.exists_of_mem_stages hmem
    have hevery := hstart before ⟨stage.2 :: after, hsplit.symm⟩
    rw [← hstate] at hevery
    rw [hact] at hreply
    cases hblocks : stage.1.blocks command with
    | true =>
      rw [perform_call_of_blocks hblocks] at hreply
      cases hreply
    | false =>
      rw [perform_call_of_not_blocks hblocks] at hreply
      obtain rfl := Answer.replied.inj hreply
      obtain ⟨handle, context, hhandle, hget, hfound⟩ := Session.exists_of_operator? hoperator
      have huniform := hevery.table.get hget
      refine ⟨handle, context, hhandle, hget, ?_⟩
      rcases hfound with ⟨name, hfind⟩ | ⟨call, hdone⟩
      · exact huniform.operator? hfind
      · exact huniform.answered hdone

/-- Two contexts for different devices compile the same source under one key, and one of them is
borrowed and works on. -/
theorem served_tags_two_devices :
    let options : Options := { kernelDirs := [], systemDirs := [] }
    let env : Environment := fun _ => some "/"
    let faithful : Backend :=
      { name := "faithful"
        answer := fun _ request =>
          .done { ptx := "p", device := request.device, variant := request.variant } }
    let acts : List (Act Unit) :=
      [.call (.createWith 5 options faithful), .call (.createWith 7 options faithful),
        .call (.compileIn 1 env "s" "k"), .borrow 2,
        .work 2 fun _ context => (context.call ⟨env, "s", "k"⟩).map fun _ => (), .giveBack]
    let final := Run.final perform (fresh .empty .oldest) acts
    ∃ first second, final.session.contexts.get 1 = .ok first ∧
      final.session.contexts.get 2 = .ok second ∧ first.device = 5 ∧ second.device = 7 ∧
      first.cache.entries.length = 1 ∧
      first.cache.entries.map (·.key) = second.cache.entries.map (·.key) ∧
      (∀ entry ∈ first.cache.entries, first.Owns entry.program.value) ∧
      ∀ entry ∈ second.cache.entries, second.Owns entry.program.value := by
  intro options env faithful acts final
  have hbackends : ∀ device options backend,
      Act.call (.createWith device options backend) ∈ acts → backend.Tags := by
    intro device options backend hmem
    have hbackend : backend = faithful := by
      simp only [acts, List.mem_cons, List.not_mem_nil, or_false, Act.call.injEq,
        Session.Command.createWith.injEq, reduceCtorEq] at hmem
      rcases hmem with ⟨_, _, hsame⟩ | ⟨_, _, hsame⟩ <;> exact hsame
    rw [hbackend]
    intro received request program hanswer
    cases hanswer
    exact ⟨rfl, rfl⟩
  have hworks : ∀ act ∈ acts, act.ByCalls := by
    intro act hmem
    simp only [acts, List.mem_cons, List.not_mem_nil, or_false] at hmem
    rcases hmem with rfl | rfl | rfl | rfl | rfl | rfl
    case inr.inr.inr.inr.inl =>
      exact Act.byCalls_call 2 (fun _ _ => ⟨env, "s", "k"⟩) fun _ => ()
    all_goals trivial
  obtain ⟨htags, _⟩ := served_tags .empty .oldest acts hbackends hworks
  have hevaluated : ((final.session.contexts.get 1).toOption.any fun first =>
      (final.session.contexts.get 2).toOption.any fun second =>
        first.device = 5 ∧ second.device = 7 ∧ first.cache.entries.length = 1 ∧
          first.cache.entries.map (·.key) = second.cache.entries.map (·.key)) = true := by
    decide +kernel
  cases hfirst : final.session.contexts.get 1 with
  | error failure =>
    rw [hfirst] at hevaluated
    cases hevaluated
  | ok first =>
    cases hsecond : final.session.contexts.get 2 with
    | error failure =>
      rw [hfirst, hsecond] at hevaluated
      cases hevaluated
    | ok second =>
      rw [hfirst, hsecond] at hevaluated
      obtain ⟨hdevice, hdevice', hlength, hkeys⟩ := of_decide_eq_true hevaluated
      have hhas : final.Has first := Or.inl ⟨1, hfirst⟩
      have hhas' : final.Has second := Or.inl ⟨2, hsecond⟩
      exact ⟨first, second, rfl, rfl, hdevice, hdevice', hlength, hkeys,
        (htags acts List.prefix_rfl first hhas).1, (htags acts List.prefix_rfl second hhas').1⟩

end Thread
end KernelJit
