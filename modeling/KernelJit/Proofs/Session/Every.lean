/-
What holds of every context of a thread.

A context comes from nowhere but a creation, and nothing is done to it but calls: by commands
of the session, and by the work of a borrower, which can choose its calls as it likes
(`Act.ByCalls`).  So a property that new contexts have and calls preserve holds of every
context that stands in the table or is borrowed, whatever a thread does (`every_reached`).
Nothing is asked of the room in the table or of the wear of its slots: a context that is found
under a wrong handle is a context all the same.
-/
import KernelJit.Proofs.Session.Thread

namespace KernelJit

variable {ρ : Type}

/-- Work on a borrowed context is done by calls, chosen in any manner, and nothing happens in
it but what they do. -/
def Act.ByCalls : Act ρ → Prop
  | .work _ task => ∀ env context, ∃ calls,
      (task env context).state = context.reached calls ∧
        (task env context).trace = context.log calls
  | .call _ | .borrow _ | .giveBack => True

theorem Act.byCalls_call (handle : Handle) (call : Environment → Context → Call)
    (seen : Outcome (Shared Operator) → ρ) :
    (Act.work handle fun env context => (context.call (call env context)).map seen).ByCalls :=
  fun env context => ⟨[call env context], rfl, (List.append_nil _).symm⟩

/-- The context that an act makes. -/
def Act.made? (ties : TieBreak) : Act ρ → Option Context
  | .call command => command.made? ties
  | .borrow _ | .work .. | .giveBack => none

/-- Nothing is registered in a new context. -/
theorem Act.operators_of_made {act : Act ρ} {ties : TieBreak} {context : Context}
    (h : act.made? ties = some context) : context.operators = .empty := by
  cases act with
  | call command =>
    cases command with
    | create device =>
      cases h
      rfl
    | createWith device options backend =>
      cases h
      rfl
    | _ => cases h
  | _ => cases h

theorem Context.reached_of_preserved {P : Context → Prop}
    (hcall : ∀ context call, P context → P (context.call call).state) {context : Context}
    (h : P context) (calls : List Call) : P (context.reached calls) := by
  refine Run.final_of_preserved h ?_
  intro current turn _ hcurrent hturn
  rw [hturn]
  exact hcall current turn.command hcurrent

namespace Thread

variable {P : Context → Prop} {thread : Thread}

/-- Every context that stands in the table or is borrowed has a property. -/
structure Every (P : Context → Prop) (thread : Thread) : Prop where
  table : thread.session.contexts.Every P
  borrowed : ∀ entry ∈ thread.borrowed, P entry.2

theorem every_fresh (settings : Settings) (ties : TieBreak) : (fresh settings ties).Every P :=
  ⟨HandleTable.every_empty, fun _ hmem => absurd hmem List.not_mem_nil⟩

theorem Every.lookup (h : thread.Every P) {handle : Handle} {context : Context}
    (hlookup : thread.borrowed.lookup handle = some context) : P context := by
  obtain ⟨before, after, hsplit, _⟩ := List.lookup_eq_some_iff.mp hlookup
  apply h.borrowed (handle, context)
  rw [hsplit]
  exact List.mem_append_right _ List.mem_cons_self

theorem Every.rewrite (h : thread.Every P) (handle : Handle) {context : Context}
    (hcontext : P context) : (thread.rewrite handle context).Every P := by
  refine ⟨h.table, ?_⟩
  intro entry hmem
  obtain ⟨old, hold, rfl⟩ := List.mem_map.mp hmem
  by_cases hsame : old.1 = handle
  · rw [if_pos hsame]
    exact hcontext
  · rw [if_neg hsame]
    exact h.borrowed old hold

/-- A command leaves every context with what new contexts have and calls preserve. -/
theorem every_command {session : Session} (h : session.contexts.Every P)
    (hcall : ∀ context call, P context → P (context.call call).state) {command : Session.Command}
    (hmade : ∀ context, command.made? session.ties = some context → P context) :
    (session.perform command).state.contexts.Every P := by
  obtain ⟨contexts, hstate, heffect⟩ := session.exists_effect_perform command
  rw [hstate]
  show contexts.Every P
  generalize session.ended? command = ended at heffect
  cases heffect with
  | same => exact h
  | made hsome => exact h.insert (hmade _ hsome)
  | called call _ hget => exact h.replace _ (hcall _ call (h.get hget))
  | ended => exact h.without _ _

theorem every_perform (h : thread.Every P)
    (hcall : ∀ context call, P context → P (context.call call).state) {act : Act ρ}
    (hmade : ∀ context, act.made? thread.session.ties = some context → P context)
    (hwork : act.ByCalls) : (thread.perform act).state.Every P := by
  cases act with
  | call command =>
    cases hblocks : thread.blocks command with
    | true =>
      rw [perform_call_of_blocks hblocks]
      exact h
    | false =>
      rw [perform_call_of_not_blocks hblocks]
      exact ⟨every_command h.table hcall hmade, h.borrowed⟩
  | borrow handle =>
    cases hget : thread.session.contexts.get handle with
    | error failure =>
      rw [perform_borrow_of_error hget]
      exact h
    | ok context =>
      cases hholds : thread.holds handle with
      | true =>
        rw [perform_borrow_of_holds hget hholds]
        exact h
      | false =>
        rw [perform_borrow_of_ok hget hholds]
        exact ⟨h.table, List.forall_mem_cons.mpr ⟨h.table.get hget, h.borrowed⟩⟩
  | work handle task =>
    cases hlookup : thread.borrowed.lookup handle with
    | none =>
      rw [perform_work_of_none hlookup]
      exact h
    | some context =>
      obtain ⟨calls, hstate, _⟩ := hwork thread.session.settings.environment context
      rw [perform_work_of_some hlookup, hstate]
      exact h.rewrite handle (Context.reached_of_preserved hcall (h.lookup hlookup) calls)
  | giveBack =>
    cases hborrowed : thread.borrowed with
    | nil =>
      rw [perform_giveBack_of_nil hborrowed]
      exact h
    | cons entry borrowed =>
      obtain ⟨hcontext, hrest⟩ := List.forall_mem_cons.mp (hborrowed ▸ h.borrowed)
      cases hget : thread.session.contexts.get entry.1 with
      | error failure =>
        rw [perform_giveBack_of_error hborrowed hget]
        exact ⟨h.table, hrest⟩
      | ok stale =>
        rw [perform_giveBack_of_ok hborrowed hget]
        exact ⟨h.table.replace _ hcontext, hrest⟩

/-- What new contexts have and calls preserve holds of every context of a run. -/
theorem every_reached (settings : Settings) (ties : TieBreak) {acts : List (Act ρ)}
    (hcall : ∀ context call, P context → P (context.call call).state)
    (hmade : ∀ act ∈ acts, ∀ context, act.made? ties = some context → P context)
    (hwork : ∀ act ∈ acts, act.ByCalls) :
    (Run.final perform (fresh settings ties) acts).Every P := by
  suffices h : (Run.final perform (fresh settings ties) acts).Every P ∧
      (Run.final perform (fresh settings ties) acts).session.ties = ties from h.1
  refine Run.final_of_preserved
    (P := fun thread : Thread => thread.Every P ∧ thread.session.ties = ties) ?_ ?_
  · exact ⟨every_fresh settings ties, rfl⟩
  · intro thread turn hturn hthread hstep
    obtain ⟨hevery, hties⟩ := hthread
    have hmem := Run.command_mem_of_mem_turns hturn
    rw [hstep]
    refine ⟨every_perform hevery hcall ?_ (hwork _ hmem), ?_⟩
    · rw [hties]
      exact hmade _ hmem
    · exact (frame_perform thread turn.command).2.trans hties

end Thread
end KernelJit
