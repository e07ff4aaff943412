/-
What the operations of a session do to its table of contexts.

There is an equation for each way in which an operation can end, by what the handle finds.
An operation on a handle that names no context leaves the session as it is.  Compiling
puts the context back that the call has led to, however the call has ended; destroying
takes the context out, and releases it if nobody has borrowed it.  An operation that is
given foreign texts looks at the handle only when all of them can be read.
-/
import KernelJit.Proofs.Context.Call
import KernelJit.Proofs.Handle.Slots
import KernelJit.Session.Foreign

namespace KernelJit

/-! ## Foreign texts -/

namespace ForeignText

/-- The text that was passed: the one whose encoding are the bytes before the first zero. -/
def Holds (foreign : ForeignText) (text : String) : Prop :=
  ∃ bytes, foreign = some bytes ∧ bytes.takeWhile (· ≠ 0) = Utf8.encode text

variable {foreign : ForeignText} {what text : String}

theorem read_eq_ok_iff : foreign.read what = .ok text ↔ foreign.Holds text := by
  unfold read Holds
  cases foreign with
  | none => simp
  | some bytes =>
    dsimp only
    cases hdecode : Utf8.decode? (bytes.takeWhile (· ≠ 0)) with
    | none =>
      have hnot : bytes.takeWhile (· ≠ 0) ≠ Utf8.encode text := by
        intro h
        rw [Utf8.decode?_eq_some_iff.mpr h] at hdecode
        cases hdecode
      simpa using hnot
    | some found =>
      have hfound := Utf8.decode?_eq_some_iff.mp hdecode
      simp only [Except.ok.injEq, Option.some.injEq, exists_eq_left', hfound]
      exact ⟨fun h => by rw [h], Utf8.encode_injective⟩

theorem read_of_not_holds (h : ∀ text, ¬foreign.Holds text) (what : String) :
    ∃ reason, foreign.read what = .error (.invalidArgument reason) := by
  unfold read
  cases foreign with
  | none => exact ⟨_, rfl⟩
  | some bytes =>
    dsimp only
    cases hdecode : Utf8.decode? (bytes.takeWhile (· ≠ 0)) with
    | none => exact ⟨_, rfl⟩
    | some found => exact absurd ⟨bytes, rfl, Utf8.decode?_eq_some_iff.mp hdecode⟩ (h found)

theorem Holds.unique {other : String} (h : foreign.Holds text) (hother : foreign.Holds other) :
    text = other := by
  obtain ⟨bytes, hbytes, htext⟩ := h
  obtain ⟨same, hsame, hread⟩ := hother
  rw [hbytes] at hsame
  cases hsame
  exact Utf8.encode_injective (htext.symm.trans hread)

end ForeignText

namespace Session

variable {session : Session} {handle : Handle} {context : Context} {failure : Failure}

/-! ## Giving back -/

theorem giveBack_of_ok (h : session.contexts.get handle = .ok context) (before : Session)
    (after : Context) :
    session.giveBack before handle after =
      ({ session with
          contexts := session.contexts.replace handle after
          lent := before.lent }, []) := by
  unfold giveBack
  rw [h]

theorem giveBack_of_error (h : session.contexts.get handle = .error failure) (before : Session)
    (after : Context) :
    session.giveBack before handle after =
      ({ session with lent := before.lent }, [after.released]) := by
  unfold giveBack
  rw [h]

/-! ## Borrowing -/

/-- The session that a borrower gets. -/
def lending (session : Session) (handle : Handle) : Session :=
  { session with lent := handle :: session.lent }

theorem withContext_of_error {α : Type} (h : session.contexts.get handle = .error failure)
    (borrower : Session × Context → Step (Session × Context) α) :
    session.withContext handle borrower = .unchanged session (.error failure) := by
  unfold withContext
  rw [h]

theorem withContext_of_ok {α : Type} (h : session.contexts.get handle = .ok context)
    (borrower : Session × Context → Step (Session × Context) α)
    {step : Step (Session × Context) α} (hstep : borrower (session.lending handle, context) = step)
    {back : Session × List Event}
    (hback : step.state.1.giveBack session handle step.state.2 = back) :
    session.withContext handle borrower =
      { result := .ok step.result, state := back.1, trace := step.trace ++ back.2 } := by
  subst hstep hback
  unfold withContext
  rw [h]
  rfl

theorem withContext_map {α β : Type} (session : Session) (handle : Handle)
    (borrower : Session × Context → Step (Session × Context) α) (f : α → β) :
    session.withContext handle (fun lent => (borrower lent).map f) =
      (session.withContext handle borrower).map (·.map f) := by
  unfold withContext
  cases session.contexts.get handle with
  | error failure => rfl
  | ok context => rfl

theorem compileIn_of_error (h : session.contexts.get handle = .error failure) (env : Environment)
    (source name : String) :
    session.compileIn handle env source name = .unchanged session (.failed failure) := by
  unfold compileIn
  rw [withContext_of_error h]
  rfl

theorem compileIn_of_ok (h : session.contexts.get handle = .ok context) (env : Environment)
    (source name : String) :
    session.compileIn handle env source name =
      { result := (context.call ⟨env, source, name⟩).result
        state := { session with
          contexts := session.contexts.replace handle (context.call ⟨env, source, name⟩).state }
        trace := (context.call ⟨env, source, name⟩).trace } := by
  have hlent : (session.lending handle).contexts.get handle = .ok context := h
  unfold compileIn
  rw [withContext_of_ok h _ rfl (giveBack_of_ok hlent session _)]
  exact congrArg (Step.mk _ _) (List.append_nil _)

/-! ## Destroying -/

theorem destroy_null (session : Session) (device : UInt32) :
    session.destroy Handle.null device = .unchanged session () := rfl

theorem destroy_of_error (hnull : handle ≠ Handle.null)
    (h : session.contexts.get handle = .error failure) (device : UInt32) :
    session.destroy handle device =
      { result := (), state := session, trace := [.destroyIgnored handle failure] } := by
  unfold destroy
  rw [if_neg hnull, HandleTable.remove_of_get_error h]

theorem destroy_state_of_error (h : session.contexts.get handle = .error failure)
    (device : UInt32) : (session.destroy handle device).state = session := by
  by_cases hnull : handle = Handle.null
  · rw [hnull, destroy_null]
    rfl
  · rw [destroy_of_error hnull h]

theorem destroy_of_ok (h : session.contexts.get handle = .ok context) (device : UInt32) :
    ∃ index generation, handle.parts? = some (index, generation) ∧
      session.contexts.slots[index]? = some ⟨generation, some context⟩ ∧
      session.destroy handle device =
        { result := ()
          state := { session with contexts := session.contexts.without index generation }
          trace := .handleDestroyed handle device ::
            if handle ∈ session.lent then [] else [context.released] } := by
  obtain ⟨index, generation, hparts, hslot, hremove⟩ := HandleTable.remove_of_get_ok h
  have hnull : handle ≠ Handle.null := by
    intro hnull
    rw [hnull, Handle.parts?_null] at hparts
    cases hparts
  refine ⟨index, generation, hparts, hslot, ?_⟩
  unfold destroy
  rw [if_neg hnull, hremove]

theorem isLive_eq_true_iff : session.isLive handle = true ↔
    ∃ context, session.contexts.get handle = .ok context :=
  HandleTable.contains_eq_true_iff

theorem destroyInside_of_error (h : session.contexts.get handle = .error failure)
    (device : UInt32) (env : Environment) (source name : String) :
    session.destroyInside handle device env source name = .unchanged session (.error failure) :=
  withContext_of_error h _

/-- A borrower that destroys its own handle works on in the context, which is released
when it is done. -/
theorem destroyInside_of_ok (h : session.contexts.get handle = .ok context) (device : UInt32)
    (env : Environment) (source name : String) :
    ∃ index generation, handle.parts? = some (index, generation) ∧
      session.contexts.slots[index]? = some ⟨generation, some context⟩ ∧
      session.destroyInside handle device env source name =
        { result := .ok
            { live := false
              compiled := (context.call ⟨env, source, name⟩).result
              view := (context.call ⟨env, source, name⟩).state }
          state := { session with contexts := session.contexts.without index generation }
          trace := .handleDestroyed handle device :: (context.call ⟨env, source, name⟩).trace ++
            [(context.call ⟨env, source, name⟩).state.released] } := by
  have hlent : (session.lending handle).contexts.get handle = .ok context := h
  obtain ⟨index, generation, hparts, hslot, hdestroy⟩ := destroy_of_ok hlent device
  refine ⟨index, generation, hparts, hslot, ?_⟩
  rw [if_pos (show handle ∈ (session.lending handle).lent from List.mem_cons_self)] at hdestroy
  have hgone := HandleTable.get_without_self hparts hslot
  have hdead : isLive
      { session.lending handle with contexts := session.contexts.without index generation }
        handle = false := by
    rw [← Bool.not_eq_true, isLive_eq_true_iff]
    intro hlive
    obtain ⟨found, hfound⟩ := hlive
    cases hgone.symm.trans hfound
  have hborrower : destroyAndCompile handle device env source name
      (session.lending handle, context) =
        { result :=
            { live := false
              compiled := (context.call ⟨env, source, name⟩).result
              view := (context.call ⟨env, source, name⟩).state }
          state :=
            ({ session.lending handle with
                contexts := session.contexts.without index generation },
              (context.call ⟨env, source, name⟩).state)
          trace := .handleDestroyed handle device :: (context.call ⟨env, source, name⟩).trace } := by
    unfold destroyAndCompile
    rw [hdestroy]
    dsimp only
    rw [show (session.lending handle).contexts = session.contexts from rfl, hdead]
    rfl
  unfold destroyInside
  rw [withContext_of_ok h _ hborrower (giveBack_of_error hgone session _)]
  rfl

/-! ## Foreign callers -/

theorem compileStatus_of_holds {source name : ForeignText} {sourceText nameText : String}
    (hsource : source.Holds sourceText) (hname : name.Holds nameText) :
    session.compileStatus handle source name =
      (session.compile handle sourceText nameText).map .ofOutcome := by
  unfold compileStatus
  rw [ForeignText.read_eq_ok_iff.mpr hsource]
  dsimp only
  rw [ForeignText.read_eq_ok_iff.mpr hname]

theorem compileStatus_of_not_holds {source name : ForeignText}
    (h : (∀ text, ¬source.Holds text) ∨ ∀ text, ¬name.Holds text) :
    session.compileStatus handle source name = .unchanged session .invalidArgument := by
  unfold compileStatus
  cases hsource : source.read "kernel source" with
  | error failure =>
    have hnone : ∀ text, ¬source.Holds text := by
      intro text htext
      rw [ForeignText.read_eq_ok_iff.mpr htext] at hsource
      cases hsource
    obtain ⟨reason, hreason⟩ := ForeignText.read_of_not_holds hnone "kernel source"
    rw [hsource] at hreason
    cases hreason
    rfl
  | ok sourceText =>
    dsimp only
    rcases h with hnone | hnone
    · exact absurd (ForeignText.read_eq_ok_iff.mp hsource) (hnone sourceText)
    · obtain ⟨reason, hreason⟩ := ForeignText.read_of_not_holds hnone "kernel name"
      rw [hreason]
      rfl

/-- Either a text cannot be read, and then nothing happens, or both are held. -/
theorem compileStatus_cases (session : Session) (handle : Handle) (source name : ForeignText) :
    session.compileStatus handle source name = .unchanged session .invalidArgument ∨
      ∃ text kernel, source.Holds text ∧ name.Holds kernel ∧
        session.compileStatus handle source name =
          (session.compile handle text kernel).map .ofOutcome := by
  by_cases hheld : (∃ text, source.Holds text) ∧ ∃ text, name.Holds text
  · obtain ⟨⟨text, htext⟩, ⟨kernel, hkernel⟩⟩ := hheld
    exact Or.inr ⟨text, kernel, htext, hkernel, compileStatus_of_holds htext hkernel⟩
  · rw [not_and_or, not_exists, not_exists] at hheld
    exact Or.inl (compileStatus_of_not_holds hheld)

end Session
end KernelJit
