/-
Destroying a context that is borrowed.

A borrower that destroys the handle of its context and works on in the context gets what a
compilation under the handle gets, and the session afterwards is as if the handle had been
destroyed after the compilation (`destroyInside_eq_destroy_compileIn`).  The two ways write
the slot of the handle once or twice, and the last write is the same (`replace_without`).
The log has the same records but for their order: the handle is reported as destroyed before
the compilation instead of after it, and the release is the last record either way.

The same borrower can be taken apart into single acts of a thread, between which the slot of
the handle is free while its context is still in use (`destroyInside_reached`).
-/
import KernelJit.Proofs.Session.Thread

namespace KernelJit

/-- An object that is replaced before it is taken out leaves no mark. -/
theorem HandleTable.replace_without {α : Type} {table : HandleTable α} {handle : Handle}
    {object : α} {index : Nat} {generation : UInt32}
    (hparts : handle.parts? = some (index, generation))
    (hslot : table.slots[index]? = some ⟨generation, some object⟩) (current : α) :
    (table.replace handle current).without index generation = table.without index generation := by
  have hget : table.get handle = .ok object :=
    get_eq_ok_iff.mpr ⟨index, generation, hparts, hslot⟩
  obtain ⟨i, g, hsame, _, hreplace, _⟩ := replace_slots hget current
  cases hparts.symm.trans hsame
  rw [hreplace]
  unfold without
  rw [List.set_set]

namespace Session

variable {session : Session} {handle : Handle} {context : Context} {failure : Failure}

/-- Destroying a handle after a compilation under it. -/
theorem destroy_compileIn_of_ok (h : session.contexts.get handle = .ok context)
    (device : UInt32) (env : Environment) (source name : String) :
    ∃ index generation, handle.parts? = some (index, generation) ∧
      session.contexts.slots[index]? = some ⟨generation, some context⟩ ∧
      (session.compileIn handle env source name).state.destroy handle device =
        { result := ()
          state := { session with contexts := session.contexts.without index generation }
          trace := .handleDestroyed handle device ::
            if handle ∈ session.lent then []
            else [(context.call ⟨env, source, name⟩).state.released] } := by
  have hreturned : (session.compileIn handle env source name).state.contexts.get handle =
      .ok (context.call ⟨env, source, name⟩).state := by
    rw [compileIn_of_ok h]
    exact HandleTable.get_replace_self h _
  obtain ⟨index, generation, hparts, _, hdestroy⟩ := destroy_of_ok hreturned device
  obtain ⟨i, g, hsame, hslot⟩ := HandleTable.get_eq_ok_iff.mp h
  cases hparts.symm.trans hsame
  refine ⟨index, generation, hparts, hslot, ?_⟩
  rw [hdestroy, compileIn_of_ok h]
  dsimp only
  rw [HandleTable.replace_without hparts hslot]

/-- The session is the same whether the handle is destroyed before or after the compilation. -/
theorem destroyInside_state (session : Session) (handle : Handle) (device : UInt32)
    (env : Environment) (source name : String) :
    (session.destroyInside handle device env source name).state =
      ((session.compileIn handle env source name).state.destroy handle device).state := by
  cases hget : session.contexts.get handle with
  | error failure =>
    rw [destroyInside_of_error hget, compileIn_of_error hget]
    exact (destroy_state_of_error hget device).symm
  | ok context =>
    obtain ⟨index, generation, hparts, _, hdestroyed⟩ :=
      destroy_compileIn_of_ok hget device env source name
    obtain ⟨i, g, hsame, _, hinside⟩ := destroyInside_of_ok hget device env source name
    cases hparts.symm.trans hsame
    rw [hinside, hdestroyed]

theorem isLive_destroyInside (session : Session) (handle : Handle) (device : UInt32)
    (env : Environment) (source name : String) :
    (session.destroyInside handle device env source name).state.isLive handle = false := by
  cases hget : session.contexts.get handle with
  | error failure =>
    rw [destroyInside_of_error hget]
    exact isLive_of_error hget
  | ok context =>
    obtain ⟨_, _, hparts, hslot, hinside⟩ := destroyInside_of_ok hget device env source name
    rw [hinside]
    exact isLive_of_error (HandleTable.get_without_self hparts hslot)

theorem view_destroyInside_of_ne {other : Handle} (hne : other ≠ handle) (device : UInt32)
    (env : Environment) (source name : String) :
    (session.destroyInside handle device env source name).state.view other =
      session.view other := by
  cases hget : session.contexts.get handle with
  | error failure =>
    rw [destroyInside_of_error hget]
    rfl
  | ok context =>
    obtain ⟨_, _, hparts, hslot, hinside⟩ := destroyInside_of_ok hget device env source name
    rw [hinside]
    exact HandleTable.get_without_of_ne hparts hslot hne

end Session

/-! ## Act by act -/

namespace Thread

variable {thread : Thread} {handle : Handle} {context : Context}

/-- Destroy a handle, ask whether it is live, and compile a kernel in the context that it
named. -/
def farewell (handle : Handle) (device : UInt32) (call : Call) :
    List (Act (Outcome (Shared Operator))) :=
  [.call (.destroy handle device), .call (.isLive handle),
    .work handle fun _ context => context.call call]

/-- The answers to these acts, from what the borrower has seen. -/
def answers (seen : Session.Farewell) : List (Answer (Outcome (Shared Operator))) :=
  [.replied .done, .replied (.answer seen.live), .worked seen.compiled]

theorem rewrite_of_head (hholds : thread.holds handle = false) (session : Session)
    (context current : Context) :
    rewrite { session, borrowed := (handle, context) :: thread.borrowed } handle current =
      { session, borrowed := (handle, current) :: thread.borrowed } := by
  have hrest : thread.borrowed.map (fun entry =>
      if entry.1 = handle then (handle, current) else entry) = thread.borrowed := by
    refine (List.map_congr_left ?_).trans (List.map_id _)
    intro entry hmem
    refine if_neg fun hsame => ?_
    have hheld : thread.holds handle = true :=
      holds_eq_true_iff.mpr (List.mem_map.mpr ⟨entry, hmem, hsame⟩)
    exact Bool.false_ne_true (hholds.symm.trans hheld)
  unfold rewrite
  rw [List.map_cons, if_pos rfl, hrest]

theorem perform_work_of_head (hholds : thread.holds handle = false) (session : Session)
    (context : Context) (call : Call) :
    perform { session, borrowed := (handle, context) :: thread.borrowed }
      (.work handle fun _ context => context.call call) =
        { result := .worked (context.call call).result
          state := { session, borrowed := (handle, (context.call call).state) :: thread.borrowed }
          trace := (context.call call).trace } := by
  have hlookup : ((handle, context) :: thread.borrowed).lookup handle = some context := by
    rw [List.lookup_cons, beq_self_eq_true]
  rw [perform_work_of_some hlookup, rewrite_of_head hholds]

/-- The acts are what the borrower does that destroys its own handle. -/
theorem borrower_farewell (hholds : thread.holds handle = false) (device : UInt32) (call : Call) :
    thread.borrower handle (farewell handle device call) = fun lent =>
      (Session.destroyAndCompile handle device call.env call.source call.name lent).map answers := by
  funext lent
  let destroyed := lent.1.destroy handle device
  let left : Thread :=
    { session := destroyed.state, borrowed := (handle, lent.2) :: thread.borrowed }
  let work : Act (Outcome (Shared Operator)) := .work handle fun _ context => context.call call
  have hwork : left.perform work = _ :=
    perform_work_of_head hholds destroyed.state lent.2 call
  -- Only the work depends on what else is borrowed.
  show Step.mk [.replied .done, .replied (.answer (destroyed.state.isLive handle)),
      (left.perform work).result]
    ((left.perform work).state.session,
      ((left.perform work).state.borrowed.lookup handle).getD lent.2)
    (destroyed.trace ++ ([] ++ ((left.perform work).trace ++ []))) = _
  rw [hwork, List.lookup_cons, beq_self_eq_true, List.nil_append, List.append_nil]
  rfl

/-- Borrow a context, do these acts, and give the context back: this is the operation that
destroys a context inside, in a thread that has not borrowed the context before. -/
theorem destroyInside_reached (hlent : thread.session.lent = thread.keys)
    (hholds : thread.holds handle = false)
    (hget : thread.session.contexts.get handle = .ok context) (device : UInt32) (call : Call) :
    let inside := thread.session.destroyInside handle device call.env call.source call.name
    let bracket := .borrow handle :: (farewell handle device call ++ [.giveBack])
    Run.final perform thread bracket = { session := inside.state, borrowed := thread.borrowed } ∧
      (Run.turns perform thread bracket).flatMap (·.step.trace) = inside.trace ∧
      thread.session.withContext handle (thread.borrower handle (farewell handle device call)) =
        inside.map (·.map answers) := by
  intro inside bracket
  have hinside : thread.session.withContext handle
      (thread.borrower handle (farewell handle device call)) = inside.map (·.map answers) := by
    rw [borrower_farewell hholds]
    exact Session.withContext_map _ handle _ answers
  have hreached : (Run.final perform (thread.borrow handle context)
      (farewell handle device call)).borrowed =
        (handle, (context.call call).state) :: thread.borrowed :=
    congrArg (·.state.borrowed) (perform_work_of_head hholds
      (((thread.borrow handle context).session.destroy handle device).state) context call)
  obtain ⟨hfinal, htrace⟩ := withContext_borrower hlent hget hholds hreached
  rw [hinside] at hfinal htrace
  exact ⟨hfinal, htrace, hinside⟩

end Thread

/-! ## The law -/

namespace Session

/-- Destroying a context that is borrowed comes to the same as destroying it when it is no
longer borrowed, whatever state the session is in.  The borrower is told that its handle is
dead, compiles as a caller under the handle would, with the same outcome, failure or crash,
and has the same context then; afterwards the session is the one in which the handle was
destroyed after the compilation.  A handle that names no context is reported either way, and
nothing changes.  The borrower can be a thread that does it act by act, whatever other
contexts the thread has borrowed. -/
theorem destroyInside_eq_destroy_compileIn (session : Session) (handle : Handle)
    (device : UInt32) (env : Environment) (source name : String) :
    let inside := session.destroyInside handle device env source name
    let compiled := session.compileIn handle env source name
    let destroyed := compiled.state.destroy handle device
    (inside.state = destroyed.state ∧ inside.state.isLive handle = false ∧
      ∀ other, other ≠ handle → inside.state.view other = session.view other) ∧
    (∀ context, session.view handle = .ok context → ∃ seen,
      inside.result = .ok seen ∧ seen.live = false ∧ seen.compiled = compiled.result ∧
      compiled.state.view handle = .ok seen.view ∧
      inside.trace = .handleDestroyed handle device :: compiled.trace ++ [seen.view.released] ∧
      destroyed.trace = .handleDestroyed handle device ::
        if handle ∈ session.lent then [] else [seen.view.released]) ∧
    (∀ failure, session.view handle = .error failure →
      inside = .unchanged session (.error failure) ∧
      compiled = .unchanged session (.failed failure) ∧ destroyed.state = session) ∧
    ∀ thread : Thread, thread.session = session → session.lent = thread.keys →
      thread.holds handle = false → session.isLive handle = true →
      let acts := Thread.farewell handle device ⟨env, source, name⟩
      let bracket := .borrow handle :: (acts ++ [.giveBack])
      Run.final Thread.perform thread bracket =
        { session := destroyed.state, borrowed := thread.borrowed } ∧
      (Run.turns Thread.perform thread bracket).flatMap (·.step.trace) = inside.trace ∧
      session.withContext handle (thread.borrower handle acts) =
        inside.map (·.map Thread.answers) := by
  intro inside compiled destroyed
  have hstate : inside.state = destroyed.state :=
    destroyInside_state session handle device env source name
  refine ⟨⟨hstate, isLive_destroyInside session handle device env source name,
    fun other hne => view_destroyInside_of_ne hne device env source name⟩, ?_, ?_, ?_⟩
  · intro context hget
    obtain ⟨_, _, _, _, hdestroyed⟩ := destroy_compileIn_of_ok hget device env source name
    obtain ⟨_, _, _, _, hinside⟩ := destroyInside_of_ok hget device env source name
    have hcompiled : compiled = _ := compileIn_of_ok hget env source name
    refine ⟨_, congrArg (·.result) hinside, rfl, ?_, ?_, ?_, ?_⟩
    · rw [hcompiled]
    · rw [hcompiled]
      exact HandleTable.get_replace_self hget _
    · rw [show inside = _ from hinside, hcompiled]
    · rw [show destroyed = _ from hdestroyed]
  · intro failure hget
    have hcompiled : compiled = _ := compileIn_of_error hget env source name
    refine ⟨destroyInside_of_error hget device env source name, hcompiled, ?_⟩
    show (compiled.state.destroy handle device).state = session
    rw [hcompiled]
    exact destroy_state_of_error hget device
  · intro thread hthread hlent hholds hlive
    subst hthread
    obtain ⟨context, hget⟩ := isLive_eq_true_iff.mp hlive
    rw [← hstate]
    exact Thread.destroyInside_reached hlent hholds hget device ⟨env, source, name⟩

/-- The backend crashes while the handle of its context is dead already: the thread ends the
borrowing, and the slot of the handle is free. -/
theorem destroyInside_eq_destroy_compileIn_crashed :
    let backend : Backend := { name := "crashing", answer := fun _ _ => .crashed "out of memory" }
    let session := Run.final perform empty [.setVariable "CUDA_PATH" (some [0x2f]),
      .createWith 0 { kernelDirs := [], systemDirs := [], cacheMegabytes := 0 } backend]
    let env := session.settings.environment
    let bracket := .borrow 1 :: (Thread.farewell 1 0 ⟨env, "b", "k"⟩ ++ [.giveBack])
    (∃ seen, (session.destroyInside 1 0 env "b" "k").result = .ok seen ∧ seen.live = false ∧
      (Status.ofOutcome seen.compiled).code = -101) ∧
    ∃ after, Run.final Thread.perform { session } bracket = { session := after } ∧
      after = ((session.compileIn 1 env "b" "k").state.destroy 1 0).state ∧
      after.contexts.vacant = [0] := by
  intro backend session env bracket
  have hlive : session.isLive 1 = true := by decide +kernel
  obtain ⟨context, hget⟩ := isLive_eq_true_iff.mp hlive
  obtain ⟨_, hseen, _, hthread⟩ := destroyInside_eq_destroy_compileIn session 1 0 env "b" "k"
  obtain ⟨seen, hresult, hdead, hcompiled, _⟩ := hseen context hget
  obtain ⟨hfinal, _⟩ := hthread { session } rfl rfl rfl hlive
  refine ⟨⟨seen, hresult, hdead, ?_⟩, _, hfinal, rfl, by decide +kernel⟩
  rw [hcompiled]
  decide +kernel

end Session
end KernelJit
