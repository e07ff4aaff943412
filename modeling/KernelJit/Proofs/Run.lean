/-
Runs: commands carried out one after another.

A run starts in a state and takes a list of commands.  Each command and the step
that it led to is a turn of the run.  `turns` lists the turns and `final` is the
state after the last of them.  A property that every step preserves holds at the
end of every run (`final_of_preserved`), and the state before any turn is the end of
a shorter run (`exists_of_mem_turns`), so a fact about all turns follows from a
property of reached states.  Where the state before a turn matters itself, `stages` lists it
beside the command.
-/
import KernelJit.Step

namespace KernelJit

/-- A command of a run with the step that it led to. -/
structure Turn (κ σ α : Type) where
  command : κ
  step : Step σ α

namespace Run

variable {κ σ α : Type} (perform : σ → κ → Step σ α)

/-- The turns of a run. -/
def turns (start : σ) : List κ → List (Turn κ σ α)
  | [] => []
  | command :: rest =>
    { command, step := perform start command } :: turns (perform start command).state rest

/-- The state at the end of a run. -/
def final (start : σ) : List κ → σ
  | [] => start
  | command :: rest => final (perform start command).state rest

theorem final_append (start : σ) (a b : List κ) :
    final perform start (a ++ b) = final perform (final perform start a) b := by
  induction a generalizing start with
  | nil => rfl
  | cons command rest ih => exact ih (perform start command).state

theorem turns_append (start : σ) (a b : List κ) :
    turns perform start (a ++ b) =
      turns perform start a ++ turns perform (final perform start a) b := by
  induction a generalizing start with
  | nil => rfl
  | cons command rest ih =>
    show _ :: turns perform _ (rest ++ b) = _ :: (turns perform _ rest ++ _)
    rw [ih]
    rfl

theorem map_command_turns (start : σ) (commands : List κ) :
    (turns perform start commands).map (·.command) = commands := by
  induction commands generalizing start with
  | nil => rfl
  | cons command rest ih =>
    show command :: (turns perform _ rest).map _ = command :: rest
    rw [ih]

variable {perform}

/-- What every turn of a run preserves holds at its end. -/
theorem final_of_preserved {P : σ → Prop} {start : σ} {commands : List κ} (hstart : P start)
    (hturn : ∀ state, ∀ turn ∈ turns perform start commands, P state →
      turn.step = perform state turn.command → P turn.step.state) :
    P (final perform start commands) := by
  induction commands generalizing start with
  | nil => exact hstart
  | cons command rest ih =>
    have hnext : P (perform start command).state :=
      hturn start _ List.mem_cons_self hstart rfl
    exact ih hnext fun state turn hmem => hturn state turn (List.mem_cons_of_mem _ hmem)

theorem command_mem_of_mem_turns {start : σ} {commands : List κ} {turn : Turn κ σ α}
    (h : turn ∈ turns perform start commands) : turn.command ∈ commands := by
  rw [← map_command_turns perform start commands]
  exact List.mem_map_of_mem h

/-- A turn is taken in the state that the commands before it lead to. -/
theorem exists_of_mem_turns {start : σ} {commands : List κ} {turn : Turn κ σ α}
    (h : turn ∈ turns perform start commands) :
    ∃ before after, commands = before ++ turn.command :: after ∧
      turn.step = perform (final perform start before) turn.command := by
  induction commands generalizing start with
  | nil => exact absurd h List.not_mem_nil
  | cons command rest ih =>
    rcases List.mem_cons.mp h with heq | hmem
    · subst heq
      exact ⟨[], rest, rfl, rfl⟩
    · obtain ⟨before, after, hsplit, hturn⟩ := ih hmem
      exact ⟨command :: before, after, by rw [hsplit, List.cons_append], hturn⟩

/-! ## Stages -/

variable (perform)

/-- The commands of a run, each with the state that it is carried out in. -/
def stages (start : σ) : List κ → List (σ × κ)
  | [] => []
  | command :: rest => (start, command) :: stages (perform start command).state rest

theorem stages_append (start : σ) (a b : List κ) :
    stages perform start (a ++ b) =
      stages perform start a ++ stages perform (final perform start a) b := by
  induction a generalizing start with
  | nil => rfl
  | cons command rest ih =>
    show _ :: stages perform _ (rest ++ b) = _ :: (stages perform _ rest ++ _)
    rw [ih]
    rfl

theorem length_stages (start : σ) (commands : List κ) :
    (stages perform start commands).length = commands.length := by
  induction commands generalizing start with
  | nil => rfl
  | cons command rest ih => exact congrArg (· + 1) (ih _)

variable {perform}

theorem exists_of_mem_stages {start : σ} {commands : List κ} {stage : σ × κ}
    (h : stage ∈ stages perform start commands) :
    ∃ before after, commands = before ++ stage.2 :: after ∧ stage.1 = final perform start before := by
  induction commands generalizing start with
  | nil => exact absurd h List.not_mem_nil
  | cons command rest ih =>
    rcases List.mem_cons.mp h with heq | hmem
    · subst heq
      exact ⟨[], rest, rfl, rfl⟩
    · obtain ⟨before, after, hsplit, hstate⟩ := ih hmem
      exact ⟨command :: before, after, by rw [hsplit, List.cons_append], hstate⟩

end Run
end KernelJit
