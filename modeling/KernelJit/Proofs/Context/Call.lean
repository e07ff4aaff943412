/-
Calls of a context, case by case.

A call asks a context to compile a kernel in an environment.  `prepare` says what comes
of it before the cache is asked: a failure, or the request to get a program for.  There
is an equation for a call that is refused there and one for a call that asks for a program;
each gives the whole step.  `call_cases` reads off them what becomes of a context, and
`call_preserves` which properties of it a call keeps.
-/
import KernelJit.Context
import KernelJit.Proofs.Cache.Compile
import KernelJit.Proofs.Run

namespace KernelJit

theorem Step.after_after {σ α : Type} (first second : List Event) (step : Step σ α) :
    (step.after second).after first = step.after (first ++ second) :=
  congrArg (Step.mk _ _) (List.append_assoc _ _ _).symm

/-- A kernel to compile, with the environment to compile it in. -/
structure Call where
  env : Environment
  source : String
  name : String

namespace Call

/-- The request that a call comes to, or the failure that ends it before. -/
def prepare (device : UInt32) (options : Options) (call : Call) : Except Failure Request :=
  if call.name = "" then
    .error (.invalidArgument "kernel name is empty")
  else if call.source = "" then
    .error (.invalidArgument ("kernel '" ++ call.name ++ "' has empty source"))
  else
    match (options.root call.env).1 with
    | .error failure => .error failure
    | .ok root => .ok
      { name := call.name, source := call.source, variant := options.variant,
        includeFlags := options.includeFlags root, device }

/-- The events of a call before its source is classified. -/
def begun (options : Options) (call : Call) : List Event :=
  if call.name = "" ∨ call.source = "" then []
  else .compiling call.name call.source :: (options.root call.env).2

/-- The operator that a call makes of a program. -/
def operator (call : Call) (program : Shared Program) : Operator :=
  { program
    aggregation := (Classification.ofSource call.source).1.aggregation
    reducer := (Classification.ofSource call.source).1.reducer }

theorem of_prepare_ok {device : UInt32} {options : Options} {call : Call} {request : Request}
    (h : call.prepare device options = .ok request) :
    call.name ≠ "" ∧ call.source ≠ "" ∧ ∃ root, (options.root call.env).1 = .ok root ∧ request =
      { name := call.name, source := call.source, variant := options.variant,
        includeFlags := options.includeFlags root, device } := by
  unfold prepare at h
  by_cases hname : call.name = ""
  · rw [if_pos hname] at h
    cases h
  · by_cases hsource : call.source = ""
    · rw [if_neg hname, if_pos hsource] at h
      cases h
    · rw [if_neg hname, if_neg hsource] at h
      cases hroot : (options.root call.env).1 with
      | error failure =>
        rw [hroot] at h
        cases h
      | ok root =>
        rw [hroot] at h
        exact ⟨hname, hsource, root, rfl, (Except.ok.inj h).symm⟩

end Call

namespace Context

/-- Carry out a call. -/
def call (context : Context) (call : Call) : Step Context (Outcome (Shared Operator)) :=
  context.compile call.env call.source call.name

/-- Ask the cache, and behind it the backend, for the program of a request. -/
def ask (context : Context) (request : Request) :
    Step (Cache × Backend) (Outcome (Shared Program)) :=
  context.cache.getOrCompile context.backend request

/-- The context after its cache and its backend were asked for a program. -/
def asked (context : Context) (request : Request) : Context :=
  { context with
    cache := (context.ask request).state.1
    backend := (context.ask request).state.2 }

/-- What a call makes of a program, or of the lack of one. -/
def finish (context : Context) (call : Call) :
    Outcome (Shared Program) → Step Context (Outcome (Shared Operator))
  | .done program => context.register call.name (call.operator program)
  | .failed failure =>
    { result := .failed failure, state := context, trace := [.compileFailed call.name failure] }
  | .crashed text => .unchanged context (.crashed text)

/-- The events of a call that reaches the cache, up to the program or the lack of one. -/
def asking (context : Context) (call : Call) (request : Request) : List Event :=
  call.begun context.options ++
    ((Classification.ofSource call.source).2 ++ (context.ask request).trace)

variable {context : Context} {call : Call} {request : Request}

theorem call_of_refused {failure : Failure}
    (h : call.prepare context.device context.options = .error failure) :
    context.call call =
      { result := .failed failure, state := context, trace := call.begun context.options } := by
  unfold Call.prepare at h
  unfold Context.call compile Call.begun
  by_cases hname : call.name = ""
  · rw [if_pos hname] at h ⊢
    rw [if_pos (Or.inl hname), ← Except.error.inj h]
    rfl
  · by_cases hsource : call.source = ""
    · rw [if_neg hname, if_pos hsource] at h ⊢
      rw [if_pos (Or.inr hsource), ← Except.error.inj h]
      rfl
    · have hbegun : ¬(call.name = "" ∨ call.source = "") := not_or.mpr ⟨hname, hsource⟩
      rw [if_neg hname, if_neg hsource] at h ⊢
      rw [if_neg hbegun]
      cases hroot : context.options.root call.env with
      | mk root searched =>
        rw [hroot] at h
        cases root with
        | error reason =>
          rw [← Except.error.inj h]
          exact congrArg (Step.mk _ _) (List.append_nil _)
        | ok root => cases h

theorem call_of_prepared (h : call.prepare context.device context.options = .ok request) :
    context.call call =
      ((context.asked request).finish call (context.ask request).result).after
        (context.asking call request) := by
  obtain ⟨hname, hsource, root, hroot, rfl⟩ := Call.of_prepare_ok h
  have hbegun : ¬(call.name = "" ∨ call.source = "") := not_or.mpr ⟨hname, hsource⟩
  unfold Context.call compile asking Call.begun
  rw [if_neg hname, if_neg hsource, if_neg hbegun]
  cases hsearch : context.options.root call.env with
  | mk found searched =>
    rw [hsearch] at hroot
    cases hroot
    show (Step.after _ (Step.after _ _)) = _
    rw [Step.after_after]
    rfl

theorem register_eq (context : Context) (name : String) (operator : Operator) :
    context.register name operator =
      { result := .done { id := context.operators.registered, value := operator }
        state := { context with operators := (context.operators.insert name operator).2 }
        trace := if (context.operators.find? name).isSome then [.replaced name] else [] } := by
  have hfound := Registry.find?_insert_self context.operators name operator
  have hreplaced : (context.operators.insert name operator).1 = context.operators.find? name := rfl
  unfold register
  cases hinsert : context.operators.insert name operator with
  | mk replaced operators =>
    rw [hinsert] at hfound hreplaced
    dsimp only at hfound hreplaced ⊢
    rw [hfound, ← hreplaced]
    cases replaced with
    | none => rfl
    | some old => rfl

/-- What a call does.  It ends with a program and registers an operator for it, or it
fails, and then it leaves the registry alone and at most asks the cache. -/
theorem call_cases (context : Context) (call : Call) :
    (∃ request program, call.prepare context.device context.options = .ok request ∧
      (context.ask request).result = .done program ∧
      (context.call call).result =
        .done { id := context.operators.registered, value := call.operator program } ∧
      (context.call call).state =
        { context.asked request with
          operators := (context.operators.insert call.name (call.operator program)).2 }) ∨
    ((∀ operator, (context.call call).result ≠ .done operator) ∧
      ((context.call call).state = context ∨
        ∃ request, call.prepare context.device context.options = .ok request ∧
          (∀ program, (context.ask request).result ≠ .done program) ∧
          (context.call call).state = context.asked request)) := by
  cases hprepare : call.prepare context.device context.options with
  | error failure =>
    rw [call_of_refused hprepare]
    exact Or.inr ⟨fun _ h => (nomatch h), Or.inl rfl⟩
  | ok request =>
    rw [call_of_prepared hprepare]
    cases hresult : (context.ask request).result with
    | done program =>
      refine Or.inl ⟨request, program, rfl, hresult, ?_⟩
      rw [finish, register_eq]
      exact ⟨rfl, rfl⟩
    | failed failure =>
      refine Or.inr ⟨fun _ h => (nomatch h), Or.inr ⟨request, rfl, fun program h => ?_, rfl⟩⟩
      rw [hresult] at h
      cases h
    | crashed text =>
      refine Or.inr ⟨fun _ h => (nomatch h), Or.inr ⟨request, rfl, fun program h => ?_, rfl⟩⟩
      rw [hresult] at h
      cases h

/-- An operator is what its call makes of its program. -/
theorem operator_of_done {operator : Shared Operator}
    (h : (context.call call).result = .done operator) :
    operator.value = call.operator operator.value.program := by
  obtain ⟨_, program, _, _, hresult, _⟩ | ⟨hfails, _⟩ := context.call_cases call
  · obtain rfl := Outcome.done.inj (hresult.symm.trans h)
    rfl
  · exact absurd h (hfails operator)

/-- What asking for a program and registering an operator preserve holds after a call. -/
theorem call_preserves {P : Context → Prop} (h : P context)
    (hasked : ∀ request, P (context.asked request))
    (hregister : ∀ current name operator, P current →
      P { current with operators := (current.operators.insert name operator).2 })
    (call : Call) : P (context.call call).state := by
  obtain ⟨request, program, _, _, _, hstate⟩ | ⟨_, hstate | ⟨request, _, _, hstate⟩⟩ :=
    call_cases context call
  · rw [hstate]
    exact hregister (context.asked request) call.name _ (hasked request)
  · rw [hstate]
    exact h
  · rw [hstate]
    exact hasked request

theorem device_call (context : Context) (call : Call) :
    (context.call call).state.device = context.device :=
  call_preserves (P := fun after => after.device = context.device) rfl (fun _ => rfl)
    (fun _ _ _ h => h) call

theorem options_call (context : Context) (call : Call) :
    (context.call call).state.options = context.options :=
  call_preserves (P := fun after => after.options = context.options) rfl (fun _ => rfl)
    (fun _ _ _ h => h) call

theorem answer_call (context : Context) (call : Call) :
    (context.call call).state.backend.answer = context.backend.answer :=
  call_preserves (P := fun after => after.backend.answer = context.backend.answer) rfl
    (Cache.answer_getOrCompile context.cache context.backend) (fun _ _ _ h => h) call

/-! ## Runs of calls -/

/-- The turns of the calls that a context takes one after the other. -/
abbrev history (context : Context) (calls : List Call) :
    List (Turn Call Context (Outcome (Shared Operator))) :=
  Run.turns Context.call context calls

/-- The context after calls. -/
abbrev reached (context : Context) (calls : List Call) : Context :=
  Run.final Context.call context calls

/-- What happens in the course of calls. -/
def log (context : Context) (calls : List Call) : List Event :=
  (context.history calls).flatMap (·.step.trace)

end Context
end KernelJit
