/-
What a command can do to a session.

Whatever the command is, it does one of four things to the table of contexts: nothing, or
put a new context in, or put back what a call has made of the context of its own handle,
or end its own handle.  Besides, it may set a variable, and it leaves the rest of the
session as it is.  So a property of contexts that new ones have and calls preserve holds of
every context of a session that is reached.
-/
import KernelJit.Proofs.Context.Names
import KernelJit.Proofs.Session.Operations
import KernelJit.Session.Command

namespace KernelJit

/-! ## The objects of a table -/

namespace HandleTable

variable {α : Type} {P : α → Prop} {table : HandleTable α}

/-- Every object that stands in a slot has a property. -/
def Every (P : α → Prop) (table : HandleTable α) : Prop :=
  ∀ slot ∈ table.slots, ∀ object, slot.occupant = some object → P object

theorem every_empty : (empty : HandleTable α).Every P := by
  intro slot hmem
  cases hmem

theorem Every.get (h : table.Every P) {handle : Handle} {object : α}
    (hget : table.get handle = .ok object) : P object := by
  obtain ⟨index, generation, _, hslot⟩ := get_eq_ok_iff.mp hget
  exact h _ (List.mem_of_getElem? hslot) object rfl

/-- An entry of a slot list after one slot was written. -/
theorem Every.set (h : table.Every P) {index : Nat} {slot : Slot α}
    (hslot : ∀ object, slot.occupant = some object → P object) {other : Slot α}
    (hmem : other ∈ table.slots.set index slot) {object : α} (hother : other.occupant = some object) :
    P object := by
  rcases List.mem_or_eq_of_mem_set hmem with hold | rfl
  · exact h other hold object hother
  · exact hslot object hother

theorem Every.insert (h : table.Every P) {object : α} (hobject : P object) :
    (table.insert object).2.Every P := by
  intro slot hmem found hfound
  unfold HandleTable.insert at hmem
  cases hvacant : table.vacant with
  | cons index vacant =>
    rw [hvacant] at hmem
    refine h.set ?_ hmem hfound
    intro own hown
    cases hown
    exact hobject
  | nil =>
    rw [hvacant] at hmem
    rcases List.mem_append.mp hmem with hold | hnew
    · exact h slot hold found hfound
    · rw [List.mem_singleton.mp hnew] at hfound
      cases hfound
      exact hobject

theorem Every.replace (h : table.Every P) (handle : Handle) {object : α} (hobject : P object) :
    (table.replace handle object).Every P := by
  unfold HandleTable.replace
  cases handle.parts? with
  | none => exact h
  | some parts =>
    dsimp only
    cases table.occupant? parts.1 parts.2 with
    | none => exact h
    | some old =>
      intro slot hmem found hfound
      refine h.set ?_ hmem hfound
      intro own hown
      cases hown
      exact hobject

theorem Every.without (h : table.Every P) (index : Nat) (generation : UInt32) :
    (table.without index generation).Every P := by
  intro slot hmem found hfound
  refine h.set ?_ hmem hfound
  intro own hown
  cases hown

end HandleTable

/-! ## Commands -/

namespace Session

/-- The handle that a command is given. -/
def Command.handle? : Command → Option Handle
  | .create _ | .createWith .. | .setVariable .. => none
  | .destroy handle _ | .compile handle .. | .compileIn handle .. | .lookup handle _
  | .isLive handle | .view handle | .destroyInside handle .. | .compileStatus handle ..
  | .compileSucceeds handle .. | .hasOperator handle _ | .operatorCount handle => some handle

/-- The context that a command makes. -/
def Command.made? (ties : TieBreak) : Command → Option Context
  | .create device => some (.create device {} .disabled ties)
  | .createWith device options backend => some (.create device options backend ties)
  | _ => none

/-- The settings after a command. -/
def Command.settings (settings : Settings) : Command → Settings
  | .setVariable var value => settings.set var (value.bind Utf8.decode?)
  | _ => settings

/-- Whether a command ends its handle. -/
def Command.ends : Command → Bool
  | .destroy .. | .destroyInside .. => true
  | _ => false

/-- The handle that a command ends. -/
def ended? (session : Session) (command : Command) : Option Handle :=
  if command.ends then command.handle?.filter session.isLive else none

/-- What a command can make of the table of contexts, with the handle that it ends. -/
inductive Effect (session : Session) (command : Command) :
    Option Handle → HandleTable Context → Prop where
  | same : Effect session command none session.contexts
  | made {context : Context} (hmade : command.made? session.ties = some context) :
      Effect session command none (session.contexts.insert context).2
  | called {handle : Handle} {context : Context} (call : Call)
      (hhandle : command.handle? = some handle)
      (hget : session.contexts.get handle = .ok context) :
      Effect session command none
        (session.contexts.replace handle (context.call call).state)
  | ended {handle : Handle} {context : Context} {index : Nat} {generation : UInt32}
      (hhandle : command.handle? = some handle)
      (hparts : handle.parts? = some (index, generation))
      (hslot : session.contexts.slots[index]? = some ⟨generation, some context⟩) :
      Effect session command (some handle) (session.contexts.without index generation)

variable {session : Session} {handle : Handle} {context : Context} {failure : Failure}

theorem isLive_of_ok (h : session.contexts.get handle = .ok context) :
    session.isLive handle = true :=
  isLive_eq_true_iff.mpr ⟨context, h⟩

theorem isLive_of_error (h : session.contexts.get handle = .error failure) :
    session.isLive handle = false := by
  rw [← Bool.not_eq_true, isLive_eq_true_iff, h]
  intro hlive
  obtain ⟨context, hcontext⟩ := hlive
  cases hcontext

theorem exists_effect_compileIn (session : Session) (handle : Handle) (env : Environment)
    (source name : String) {command : Command} (hhandle : command.handle? = some handle) :
    ∃ contexts, (session.compileIn handle env source name).state = { session with contexts } ∧
      Effect session command none contexts := by
  cases hget : session.contexts.get handle with
  | error failure =>
    rw [compileIn_of_error hget]
    exact ⟨_, rfl, .same⟩
  | ok context =>
    rw [compileIn_of_ok hget]
    exact ⟨_, rfl, .called _ hhandle hget⟩

theorem exists_effect_compileStatus (session : Session) (handle : Handle)
    (source name : ForeignText) {command : Command} (hhandle : command.handle? = some handle) :
    ∃ contexts, (session.compileStatus handle source name).state = { session with contexts } ∧
      Effect session command none contexts := by
  obtain hstep | ⟨text, kernel, _, _, hstep⟩ := session.compileStatus_cases handle source name
  · rw [hstep]
    exact ⟨_, rfl, .same⟩
  · rw [hstep]
    exact exists_effect_compileIn session handle _ text kernel hhandle

theorem exists_effect_destroy (session : Session) (handle : Handle) (device : UInt32)
    {command : Command} (hhandle : command.handle? = some handle) :
    ∃ contexts, (session.destroy handle device).state = { session with contexts } ∧
      Effect session command (if session.isLive handle then some handle else none) contexts := by
  cases hget : session.contexts.get handle with
  | error failure =>
    rw [isLive_of_error hget, destroy_state_of_error hget]
    exact ⟨_, rfl, .same⟩
  | ok context =>
    obtain ⟨index, generation, hparts, hslot, hdestroy⟩ := destroy_of_ok hget device
    rw [isLive_of_ok hget, hdestroy]
    exact ⟨_, rfl, .ended hhandle hparts hslot⟩

theorem exists_effect_destroyInside (session : Session) (handle : Handle) (device : UInt32)
    (env : Environment) (source name : String) {command : Command}
    (hhandle : command.handle? = some handle) :
    ∃ contexts, (session.destroyInside handle device env source name).state =
        { session with contexts } ∧
      Effect session command (if session.isLive handle then some handle else none) contexts := by
  cases hget : session.contexts.get handle with
  | error failure =>
    rw [isLive_of_error hget, destroyInside_of_error hget]
    exact ⟨_, rfl, .same⟩
  | ok context =>
    obtain ⟨index, generation, hparts, hslot, hdestroy⟩ :=
      destroyInside_of_ok hget device env source name
    rw [isLive_of_ok hget, hdestroy]
    exact ⟨_, rfl, .ended hhandle hparts hslot⟩

theorem exists_effect_perform (session : Session) (command : Command) :
    ∃ contexts, (session.perform command).state =
        { session with contexts, settings := command.settings session.settings } ∧
      Effect session command (session.ended? command) contexts := by
  cases command with
  | create device => exact ⟨_, rfl, .made rfl⟩
  | createWith device options backend => exact ⟨_, rfl, .made rfl⟩
  | setVariable var value => exact ⟨_, rfl, .same⟩
  | lookup handle name => exact ⟨_, rfl, .same⟩
  | isLive handle => exact ⟨_, rfl, .same⟩
  | view handle => exact ⟨_, rfl, .same⟩
  | hasOperator handle name => exact ⟨_, rfl, .same⟩
  | operatorCount handle => exact ⟨_, rfl, .same⟩
  | compile handle source name => exact exists_effect_compileIn session handle _ source name rfl
  | compileIn handle env source name =>
    exact exists_effect_compileIn session handle env source name rfl
  | compileStatus handle source name =>
    exact exists_effect_compileStatus session handle source name rfl
  | compileSucceeds handle source name =>
    exact exists_effect_compileStatus session handle source name rfl
  | destroy handle device => exact exists_effect_destroy session handle device rfl
  | destroyInside handle device env source name =>
    exact exists_effect_destroyInside session handle device env source name rfl

/-! ## Every context of a session -/

/-- The names of every context stand in order, no name twice. -/
def Sorted (session : Session) : Prop :=
  session.contexts.Every fun context => context.operators.Sorted

theorem sorted_empty : empty.Sorted := HandleTable.every_empty

theorem sorted_perform (h : session.Sorted) (command : Command) :
    (session.perform command).state.Sorted := by
  obtain ⟨contexts, hstate, heffect⟩ := exists_effect_perform session command
  rw [hstate]
  show contexts.Every _
  generalize session.ended? command = ended at heffect
  cases heffect with
  | same => exact h
  | made hmade =>
    refine h.insert ?_
    cases command <;> cases hmade <;> exact Registry.sorted_empty
  | called call _ hget => exact h.replace _ (Context.sorted_call (h.get hget) call)
  | ended => exact h.without _ _

theorem sorted_reached (h : session.Sorted) (commands : List Command) :
    (Run.final perform session commands).Sorted := by
  refine Run.final_of_preserved h ?_
  intro state turn _ hstate hturn
  rw [hturn]
  exact sorted_perform hstate turn.command

end Session
end KernelJit
