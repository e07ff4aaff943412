/-
A context that a thread has for itself.

What a command does in the context of its handle can be said without any handle: `serve`
is the command carried out in the context alone.  A session answers with the same as long as
its handle finds the context (`perform_of_ok`), and what happens inside the context is the
same too; only handles and whole contexts come and go besides.
-/
import KernelJit.Proofs.Session.Foreign
import KernelJit.Proofs.Session.Thread

namespace KernelJit

/-- Whether an event happens inside a context, rather than to a handle or to a whole
context. -/
def Event.isInside : Event → Bool
  | .deviceOpened _ | .contextCreated .. | .handleIssued _ | .handleDestroyed ..
  | .destroyIgnored .. | .contextReleased .. => false
  | _ => true

/-- The result of a step, and what has happened inside a context: every call of the backend,
and every other event of its cache and its registry. -/
def Step.observed {σ α : Type} (step : Step σ α) : α × List Event :=
  (step.result, step.trace.filter Event.isInside)

theorem Step.observed_map {σ τ α β : Type} {f : α → β} {a : Step σ α} {b : Step τ α}
    (h : a.observed = b.observed) : (a.map f).observed = (b.map f).observed := by
  obtain ⟨hresult, htrace⟩ := Prod.mk.inj h
  exact Prod.ext (congrArg f hresult) htrace

namespace Context

/-- Compile a kernel for a foreign caller. -/
def compileStatus (env : Environment) (context : Context) (source name : ForeignText) :
    Step Context Status :=
  match source.read "kernel source" with
  | .error failure => .unchanged context (.ofFailure failure)
  | .ok source =>
    match name.read "kernel name" with
    | .error failure => .unchanged context (.ofFailure failure)
    | .ok name => (context.compile env source name).map .ofOutcome

/-- Carry out a command in a context. -/
def serve (env : Environment) (context : Context) : Session.Command → Step Context Session.Reply
  | .compile _ source name => (context.compile env source name).map .compiled
  | .compileIn _ env source name => (context.compile env source name).map .compiled
  | .lookup _ name => .unchanged context (.found (.ok (context.operator? name)))
  | .isLive _ => .unchanged context (.answer true)
  | .view _ => .unchanged context (.view (.ok context))
  | .destroyInside _ _ env source name =>
    let compiled := context.compile env source name
    compiled.map fun outcome => .farewell (.ok ⟨false, outcome, compiled.state⟩)
  | .compileStatus _ source name => (context.compileStatus env source name).map .status
  | .compileSucceeds _ source name =>
    (context.compileStatus env source name).map fun status => .answer (status == .success)
  | .hasOperator _ name =>
    match name.read "kernel name" with
    | .error _ => .unchanged context (.answer false)
    | .ok name => .unchanged context (.answer (context.operator? name).isSome)
  | .operatorCount _ => .unchanged context (.count context.operators.size)
  | .create _ | .createWith .. | .destroy .. | .setVariable .. => .unchanged context .done

end Context

namespace Session

variable {session : Session} {handle : Handle} {context : Context} {command : Command}

theorem compileStatus_of_ok (hget : session.contexts.get handle = .ok context)
    (source name : ForeignText) :
    (session.compileStatus handle source name).observed =
        (context.compileStatus session.settings.environment source name).observed ∧
      (session.compileStatus handle source name).state.contexts.get handle =
        .ok (context.compileStatus session.settings.environment source name).state := by
  unfold compileStatus Context.compileStatus
  cases source.read "kernel source" with
  | error failure => exact ⟨rfl, hget⟩
  | ok source =>
    dsimp only
    cases name.read "kernel name" with
    | error failure => exact ⟨rfl, hget⟩
    | ok name =>
      dsimp only [compile]
      rw [compileIn_of_ok hget]
      exact ⟨rfl, HandleTable.get_replace_self hget _⟩

theorem compileIn_observed (hget : session.contexts.get handle = .ok context) (env : Environment)
    (source name : String) :
    (session.compileIn handle env source name).observed =
        (context.compile env source name).observed ∧
      (session.compileIn handle env source name).state.contexts.get handle =
        .ok (context.compile env source name).state := by
  rw [compileIn_of_ok hget]
  exact ⟨rfl, HandleTable.get_replace_self hget _⟩

theorem destroy_observed (hget : session.contexts.get handle = .ok context) (device : UInt32) :
    (session.destroy handle device).observed = ((), []) := by
  obtain ⟨index, generation, _, _, hdestroy⟩ := destroy_of_ok hget device
  rw [hdestroy]
  unfold Step.observed
  by_cases hlent : handle ∈ session.lent
  · rw [if_pos hlent]
    rfl
  · rw [if_neg hlent]
    rfl

theorem destroyInside_observed (hget : session.contexts.get handle = .ok context) (device : UInt32)
    (env : Environment) (source name : String) :
    (session.destroyInside handle device env source name).observed =
      ((context.compile env source name).map fun outcome => (Except.ok
        ⟨false, outcome, (context.compile env source name).state⟩ :
          Except Failure Farewell)).observed := by
  obtain ⟨index, generation, _, _, hdestroy⟩ := destroyInside_of_ok hget device env source name
  rw [hdestroy]
  unfold Step.observed
  rw [List.filter_append]
  exact congrArg (Prod.mk _) (List.append_nil _)

/-- A command whose handle finds a context does what the context does by itself, and puts
the context back unless it ends the handle. -/
theorem perform_of_ok (hget : session.contexts.get handle = .ok context)
    (hhandle : command.handle? = some handle) :
    (session.perform command).observed =
        (context.serve session.settings.environment command).observed ∧
      (command.ends = false → (session.perform command).state.contexts.get handle =
        .ok (context.serve session.settings.environment command).state) := by
  cases command with
  | create _ => cases hhandle
  | createWith _ _ _ => cases hhandle
  | setVariable _ _ => cases hhandle
  | compile own source name =>
    cases hhandle
    obtain ⟨hobserved, hstate⟩ := compileIn_observed hget session.settings.environment source name
    exact ⟨Step.observed_map hobserved, fun _ => hstate⟩
  | compileIn own env source name =>
    cases hhandle
    obtain ⟨hobserved, hstate⟩ := compileIn_observed hget env source name
    exact ⟨Step.observed_map hobserved, fun _ => hstate⟩
  | compileStatus own source name =>
    cases hhandle
    obtain ⟨hobserved, hstate⟩ := compileStatus_of_ok hget source name
    exact ⟨Step.observed_map hobserved, fun _ => hstate⟩
  | compileSucceeds own source name =>
    cases hhandle
    obtain ⟨hobserved, hstate⟩ := compileStatus_of_ok hget source name
    exact ⟨Step.observed_map (f := fun status => Reply.answer (status == Status.success)) hobserved,
      fun _ => hstate⟩
  | destroy own device =>
    cases hhandle
    exact ⟨Step.observed_map (f := fun _ => Reply.done) (b := .unchanged context ())
      (destroy_observed hget device), fun h => nomatch h⟩
  | destroyInside own device env source name =>
    cases hhandle
    exact ⟨Step.observed_map (destroyInside_observed hget device env source name),
      fun h => nomatch h⟩
  | isLive own =>
    cases hhandle
    unfold perform
    dsimp only
    rw [isLive_of_ok hget]
    exact ⟨rfl, fun _ => hget⟩
  | view own =>
    cases hhandle
    unfold perform view
    dsimp only
    rw [hget]
    exact ⟨rfl, fun _ => hget⟩
  | lookup own name =>
    cases hhandle
    unfold perform lookup view
    dsimp only
    rw [hget]
    exact ⟨rfl, fun _ => hget⟩
  | operatorCount own =>
    cases hhandle
    unfold perform operatorCount view
    dsimp only
    rw [hget]
    exact ⟨rfl, fun _ => hget⟩
  | hasOperator own name =>
    cases hhandle
    unfold perform hasOperator lookup view Context.serve
    dsimp only
    rw [hget]
    cases name.read "kernel name" with
    | error failure => exact ⟨rfl, fun _ => hget⟩
    | ok name => exact ⟨rfl, fun _ => hget⟩

/-- A command that gets as far as its handle locks the context of that handle. -/
theorem Command.locked?_eq (command : Command) :
    command.locked? = none ∨ command.locked? = command.handle? := by
  cases command with
  | compileStatus handle source name | compileSucceeds handle source name =>
    unfold locked? handle?
    dsimp only
    cases source.read "kernel source" with
    | error failure => exact Or.inl rfl
    | ok source =>
      cases name.read "kernel name" with
      | error failure => exact Or.inl rfl
      | ok name => exact Or.inr rfl
  | hasOperator handle name =>
    unfold locked? handle?
    dsimp only
    cases name.read "kernel name" with
    | error failure => exact Or.inl rfl
    | ok name => exact Or.inr rfl
  | create _ | createWith _ _ _ | destroy _ _ | isLive _ | setVariable _ _ => exact Or.inl rfl
  | compile _ _ _ | compileIn _ _ _ _ | lookup _ _ | view _ | destroyInside _ _ _ _ _
  | operatorCount _ => exact Or.inr rfl

end Session

namespace Context

theorem compileStatus_of_unlocked {handle : Handle} {source name : ForeignText}
    (h : (Session.Command.compileStatus handle source name).locked? = none) :
    ∃ status, ∀ env context,
      compileStatus env context source name = .unchanged context status := by
  unfold compileStatus
  cases hsource : source.read "kernel source" with
  | error failure => exact ⟨_, fun _ _ => rfl⟩
  | ok source =>
    cases hname : name.read "kernel name" with
    | error failure => exact ⟨_, fun _ _ => rfl⟩
    | ok name => simp [Session.Command.locked?, hsource, hname] at h

/-- A command that locks nothing takes no notice of the context. -/
theorem serve_of_unlocked {command : Session.Command} (h : command.locked? = none) :
    ∃ reply, ∀ env context, serve env context command = .unchanged context reply := by
  cases command with
  | create _ | createWith _ _ _ | destroy _ _ | isLive _ | setVariable _ _ =>
    exact ⟨_, fun _ _ => rfl⟩
  | compile _ _ _ | compileIn _ _ _ _ | lookup _ _ | view _ | destroyInside _ _ _ _ _
  | operatorCount _ => cases h
  | compileStatus handle source name =>
    obtain ⟨status, hstatus⟩ := compileStatus_of_unlocked h
    exact ⟨.status status, fun env context => by rw [serve, hstatus env context]; rfl⟩
  | compileSucceeds handle source name =>
    obtain ⟨status, hstatus⟩ := @compileStatus_of_unlocked handle source name h
    exact ⟨.answer (status == .success), fun env context => by rw [serve, hstatus env context]; rfl⟩
  | hasOperator handle name =>
    dsimp only [serve]
    cases hname : name.read "kernel name" with
    | error failure => exact ⟨_, fun _ _ => rfl⟩
    | ok name => simp [Session.Command.locked?, hname] at h

end Context

/-! ## Acts -/

/-- A context by itself, with the settings around it. -/
structure Solo where
  settings : Settings
  context : Context

/-- Do one thing with a context that nobody else uses. -/
def Solo.perform {ρ : Type} (solo : Solo) : Act ρ → Step Solo (Answer ρ)
  | .call command =>
    let step := solo.context.serve solo.settings.environment command
    { result := .replied step.result
      state := { settings := command.settings solo.settings, context := step.state }
      trace := step.trace }
  | .borrow _ => .unchanged solo (.lent (.ok ()))
  | .work _ task =>
    let step := task solo.settings.environment solo.context
    { result := .worked step.result
      state := { solo with context := step.state }
      trace := step.trace }
  | .giveBack => .unchanged solo .returned

end KernelJit
