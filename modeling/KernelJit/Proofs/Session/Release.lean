/-
Every context is released exactly once.

An act tells of a release exactly if it gives a context up, and then the record is the last thing
that happens (`releases_perform`).  So the records count the contexts that were given up, and the
law of the contexts that are there becomes a conservation law for the log
(`countP_isCreation_run`): what was created is what was released and what is there.  For one
context the same law says that it is given up once, after which it is not there
(`releases_run`).

The record reports the context as it is then.  The borrower of a destroyed context goes on with
it, so what it does is counted: the context that is released is what all acts that reach it,
the last one included, make of it by itself (`Follows.released`).
-/
import KernelJit.Proofs.Context.Events
import KernelJit.Proofs.Session.Present

namespace KernelJit

variable {ρ : Type}

namespace Event

def isCreation : Event → Bool
  | .contextCreated .. => true
  | _ => false

def isRelease : Event → Bool
  | .contextReleased .. => true
  | _ => false

theorem isRelease_of_isInside {event : Event} (h : event.isInside = true) :
    event.isRelease = false := by
  cases event <;> first | rfl | cases h

theorem isCreation_of_isInside {event : Event} (h : event.isInside = true) :
    event.isCreation = false := by
  cases event <;> first | rfl | cases h

theorem countP_eq_zero_of_isInside {p : Event → Bool}
    (hp : ∀ {event : Event}, event.isInside = true → p event = false) {trace : List Event}
    (h : ∀ event ∈ trace, event.isInside = true) : trace.countP p = 0 := by
  refine List.countP_eq_zero.mpr fun event hmem hevent => ?_
  cases (hp (h event hmem)).symm.trans hevent

end Event

namespace Context

/-- A call does nothing to its context as a whole, nor to any handle. -/
theorem isInside_call (context : Context) (call : Call) :
    ∀ event ∈ (context.call call).trace, event.isInside = true := by
  apply forall_call (P := fun event => event.isInside = true)
  · exact Call.forall_begun (fun _ _ => rfl) (fun _ => rfl) _ _
  · exact Classification.forall_ofSource (P := fun event => event.isInside = true) rfl
      (fun _ => rfl) (fun _ _ => rfl) _
  · intro request
    refine Cache.forall_getOrCompile_trace (P := fun event => event.isInside = true)
      (fun _ => rfl) ?_ (fun _ => rfl)
    simp [Cache.calling, Event.isInside]
  · exact fun current outcome => forall_finish (fun _ _ => rfl) (fun _ => rfl) current call outcome

theorem isInside_log (context : Context) (calls : List Call) :
    ∀ event ∈ context.log calls, event.isInside = true := by
  intro event hmem
  obtain ⟨turn, hturn, hevent⟩ := List.mem_flatMap.mp hmem
  obtain ⟨before, after, _, hstep⟩ := Run.exists_of_mem_turns hturn
  rw [hstep] at hevent
  exact isInside_call _ _ event hevent

end Context

/-! ## What an act tells of releases -/

/-- How the release of a context is told: after the end of its handle, with the work of the
borrower in between if the handle is ended from inside, or when the context is given back.
Without a release there is no record of one. -/
inductive Act.Releases : Act ρ → Option (Handle × Context) → List Event → Prop where
  | nothing {act : Act ρ} {trace : List Event}
      (hquiet : ∀ event ∈ trace, event.isRelease = false) : Releases act none trace
  | destroyed (handle : Handle) (device : UInt32) (context : Context) :
      Releases (.call (.destroy handle device)) (some (handle, context))
        [.handleDestroyed handle device, context.released]
  | inside (handle : Handle) (device : UInt32) (env : Environment) (source name : String)
      (context : Context) {trace : List Event}
      (hquiet : ∀ event ∈ trace, event.isRelease = false) :
      Releases (.call (.destroyInside handle device env source name)) (some (handle, context))
        (.handleDestroyed handle device :: trace ++ [context.released])
  | returned (handle : Handle) (context : Context) :
      Releases .giveBack (some (handle, context)) [context.released]

theorem Act.Releases.countP {act : Act ρ} {released : Option (Handle × Context)}
    {trace : List Event} (h : act.Releases released trace) :
    trace.countP Event.isRelease = released.toList.length := by
  have hnone : ∀ trace : List Event, (∀ event ∈ trace, event.isRelease = false) →
      trace.countP Event.isRelease = 0 :=
    fun trace hquiet => List.countP_eq_zero.mpr fun event hmem => by simp [hquiet event hmem]
  cases h with
  | nothing hquiet => exact hnone _ hquiet
  | destroyed => rfl
  | inside handle device env source name context hquiet =>
    rw [List.cons_append, List.countP_cons, List.countP_append, hnone _ hquiet]
    rfl
  | returned => rfl

namespace Session

variable {session : Session} {command : Command}

/-- Apart from creations and the ends of handles, a command does nothing but inside a
context. -/
theorem isInside_perform (hmade : command.made? session.ties = none)
    (hends : command.ends = false) :
    ∀ event ∈ (session.perform command).trace, event.isInside = true := by
  have hnone : ∀ event ∈ ([] : List Event), event.isInside = true := List.forall_mem_nil _
  have hcompile : ∀ handle env source name,
      ∀ event ∈ (session.compileIn handle env source name).trace, event.isInside = true := by
    intro handle env source name
    cases hget : session.contexts.get handle with
    | error failure =>
      rw [compileIn_of_error hget]
      exact hnone
    | ok context =>
      rw [compileIn_of_ok hget]
      exact context.isInside_call _
  have hstatus : ∀ handle source name,
      ∀ event ∈ (session.compileStatus handle source name).trace, event.isInside = true := by
    intro handle source name
    rcases session.compileStatus_cases handle source name with hstep | ⟨text, kernel, _, _, hstep⟩
    · rw [hstep]
      exact hnone
    · rw [hstep]
      exact hcompile handle _ text kernel
  cases command with
  | create device => cases hmade
  | createWith device options backend => cases hmade
  | destroy handle device => cases hends
  | destroyInside handle device env source name => cases hends
  | compile handle source name => exact hcompile handle _ source name
  | compileIn handle env source name => exact hcompile handle env source name
  | compileStatus handle source name => exact hstatus handle source name
  | compileSucceeds handle source name => exact hstatus handle source name
  | _ => exact hnone

theorem countP_isCreation_perform (session : Session) (command : Command) :
    (session.perform command).trace.countP Event.isCreation =
      (command.made? session.ties).toList.length := by
  cases hmade : command.made? session.ties with
  | some context =>
    cases command with
    | create device => rfl
    | createWith device options backend => rfl
    | _ => cases hmade
  | none =>
    cases hends : command.ends with
    | false =>
      exact Event.countP_eq_zero_of_isInside Event.isCreation_of_isInside
        (isInside_perform hmade hends)
    | true =>
      cases command with
      | destroy handle device =>
        show (session.destroy handle device).trace.countP _ = 0
        cases hget : session.contexts.get handle with
        | error failure =>
          by_cases hnull : handle = Handle.null
          · rw [hnull, destroy_null]
            rfl
          · rw [destroy_of_error hnull hget]
            rfl
        | ok context =>
          obtain ⟨_, _, _, _, hdestroy⟩ := destroy_of_ok hget device
          rw [hdestroy]
          by_cases hlent : handle ∈ session.lent
          · rw [if_pos hlent]
            rfl
          · rw [if_neg hlent]
            rfl
      | destroyInside handle device env source name =>
        show (session.destroyInside handle device env source name).trace.countP _ = 0
        cases hget : session.contexts.get handle with
        | error failure =>
          rw [destroyInside_of_error hget]
          rfl
        | ok context =>
          obtain ⟨_, _, _, _, hdestroy⟩ := destroyInside_of_ok hget device env source name
          have hcall := Event.countP_eq_zero_of_isInside Event.isCreation_of_isInside
            (context.isInside_call ⟨env, source, name⟩)
          rw [hdestroy, List.cons_append, List.countP_cons, List.countP_append, hcall]
          rfl
      | _ => cases hends

end Session

namespace Thread

variable {thread : Thread} {act : Act ρ} {handle : Handle} {context : Context}

theorem released?_of_not_ended {command : Session.Command}
    (h : thread.ended? (.call command : Act ρ) = none) :
    thread.released? (.call command : Act ρ) = none := by
  rw [released?, h, Option.bind_none]

theorem ended?_call_of_ok {command : Session.Command} (hends : command.ends = true)
    (hhandle : command.handle? = some handle) (hblocks : thread.blocks command = false)
    (hget : thread.session.contexts.get handle = .ok context) :
    thread.ended? (.call command : Act ρ) = some handle :=
  ended?_eq_some_iff.mpr
    ⟨hends, target?_call_eq_some_iff.mpr ⟨hhandle, Session.isLive_of_ok hget, hblocks⟩⟩

theorem ended?_call_of_error {command : Session.Command} {failure : Failure}
    (hhandle : command.handle? = some handle)
    (hget : thread.session.contexts.get handle = .error failure) :
    thread.ended? (.call command : Act ρ) = none := by
  rw [Option.eq_none_iff_forall_ne_some]
  intro own hended
  obtain ⟨hown, hlive, _⟩ := target?_call_eq_some_iff.mp (ended?_eq_some_iff.mp hended).2
  obtain rfl := Option.some.inj (hhandle.symm.trans hown)
  cases (Session.isLive_of_error hget).symm.trans hlive

theorem releases_destroy (hlent : thread.session.lent = thread.keys) (handle : Handle)
    (device : UInt32) :
    (.call (.destroy handle device) : Act ρ).Releases
      (thread.released? (.call (.destroy handle device) : Act ρ))
      (thread.session.destroy handle device).trace := by
  cases hget : thread.session.contexts.get handle with
  | error failure =>
    rw [released?_of_not_ended (ended?_call_of_error rfl hget)]
    by_cases hnull : handle = Handle.null
    · rw [hnull, Session.destroy_null]
      exact .nothing (List.forall_mem_nil _)
    · rw [Session.destroy_of_error hnull hget]
      refine .nothing fun event hmem => ?_
      rw [List.mem_singleton.mp hmem]
      rfl
  | ok context =>
    have hended : thread.ended? (.call (.destroy handle device) : Act ρ) = some handle :=
      ended?_call_of_ok rfl rfl rfl hget
    obtain ⟨_, _, _, _, hdestroy⟩ := Session.destroy_of_ok hget device
    rw [hdestroy, hlent]
    cases hholds : thread.holds handle with
    | true =>
      rw [if_pos (holds_eq_true_iff.mp hholds), released?, hended, Option.bind_some, hholds,
        if_pos rfl]
      refine .nothing fun event hmem => ?_
      rw [List.mem_singleton.mp hmem]
      rfl
    | false =>
      have hfree : handle ∉ thread.keys := by
        rw [← holds_eq_true_iff, hholds]
        exact Bool.false_ne_true
      rw [if_neg hfree, released?_call_eq_some_iff.mpr ⟨hended, hholds, context, hget, rfl⟩]
      exact .destroyed handle device context

theorem releases_destroyInside (handle : Handle) (device : UInt32) (env : Environment)
    (source name : String)
    (hblocks : thread.blocks (.destroyInside handle device env source name) = false) :
    (.call (.destroyInside handle device env source name) : Act ρ).Releases
      (thread.released? (.call (.destroyInside handle device env source name) : Act ρ))
      (thread.session.destroyInside handle device env source name).trace := by
  cases hget : thread.session.contexts.get handle with
  | error failure =>
    rw [released?_of_not_ended (ended?_call_of_error rfl hget), Session.destroyInside,
      Session.withContext_of_error hget]
    exact .nothing (List.forall_mem_nil _)
  | ok context =>
    -- The command locks the context, so it is not blocked only if nobody has borrowed it.
    have hholds : thread.holds handle = false := by
      have hfree : (thread.holds handle && thread.session.isLive handle) = false := hblocks
      rwa [Session.isLive_of_ok hget, Bool.and_true] at hfree
    have hended := ended?_call_of_ok (ρ := ρ) rfl rfl hblocks hget
    obtain ⟨_, _, _, _, hdestroy⟩ := Session.destroyInside_of_ok hget device env source name
    rw [hdestroy, released?_call_eq_some_iff.mpr ⟨hended, hholds, context, hget, rfl⟩]
    exact .inside handle device env source name _ fun event hmem =>
      Event.isRelease_of_isInside (context.isInside_call _ event hmem)

/-- An act tells of a release exactly if it gives a context up. -/
theorem releases_perform (hlent : thread.session.lent = thread.keys) (hwork : act.ByCalls) :
    act.Releases (thread.released? act) (thread.perform act).trace := by
  have hnone : ∀ event ∈ ([] : List Event), event.isRelease = false :=
    List.forall_mem_nil _
  cases act with
  | call command =>
    cases hblocks : thread.blocks command with
    | true =>
      rw [perform_call_of_blocks hblocks, released?_of_not_ended (ended?_call_of_blocks hblocks)]
      exact .nothing hnone
    | false =>
      rw [perform_call_of_not_blocks hblocks]
      cases hends : command.ends with
      | true =>
        cases command with
        | destroy handle device => exact releases_destroy hlent handle device
        | destroyInside handle device env source name =>
          exact releases_destroyInside handle device env source name hblocks
        | _ => cases hends
      | false =>
        have hended : thread.ended? (.call command : Act ρ) = none := by
          simp only [ended?, Act.ends, hends, Bool.false_eq_true, if_false]
        rw [released?_of_not_ended hended]
        cases hmade : command.made? thread.session.ties with
        | none =>
          exact .nothing fun event hmem =>
            Event.isRelease_of_isInside (Session.isInside_perform hmade hends event hmem)
        | some context =>
          refine .nothing ?_
          cases command with
          | create device => simp [Session.perform, Session.create, Session.createWith, Step.map,
              Step.after, Event.isRelease, Context.created]
          | createWith device options backend => simp [Session.perform, Session.createWith,
              Step.map, Event.isRelease, Context.created]
          | _ => cases hmade
  | borrow own =>
    cases hget : thread.session.contexts.get own with
    | error failure =>
      rw [perform_borrow_of_error hget]
      exact .nothing hnone
    | ok context =>
      cases hholds : thread.holds own with
      | true =>
        rw [perform_borrow_of_holds hget hholds]
        exact .nothing hnone
      | false =>
        rw [perform_borrow_of_ok hget hholds]
        exact .nothing hnone
  | work own task =>
    cases hlookup : thread.borrowed.lookup own with
    | none =>
      rw [perform_work_of_none hlookup]
      exact .nothing hnone
    | some context =>
      obtain ⟨calls, _, htrace⟩ := hwork thread.session.settings.environment context
      rw [perform_work_of_some hlookup, htrace]
      exact .nothing fun event hmem =>
        Event.isRelease_of_isInside (context.isInside_log calls event hmem)
  | giveBack =>
    cases hborrowed : thread.borrowed with
    | nil =>
      rw [perform_giveBack_of_nil hborrowed, released?, hborrowed]
      exact .nothing hnone
    | cons entry rest =>
      cases hget : thread.session.contexts.get entry.1 with
      | error failure =>
        rw [perform_giveBack_of_error hborrowed hget, released?_giveBack_eq_some_iff.mpr
          ⟨⟨rest, hborrowed⟩, Session.isLive_of_error hget⟩]
        exact .returned entry.1 entry.2
      | ok stale =>
        rw [perform_giveBack_of_ok hborrowed hget]
        have hkept : thread.released? (.giveBack : Act ρ) = none := by
          rw [Option.eq_none_iff_forall_ne_some]
          rintro ⟨own, context⟩ hreleased
          obtain ⟨⟨others, hsame⟩, hdead⟩ := released?_giveBack_eq_some_iff.mp hreleased
          obtain rfl : entry = (own, context) := (List.cons.inj (hborrowed.symm.trans hsame)).1
          cases (Session.isLive_of_ok hget).symm.trans hdead
        rw [hkept]
        exact .nothing hnone

theorem countP_isCreation_perform (thread : Thread) (hwork : act.ByCalls) :
    (thread.perform act).trace.countP Event.isCreation =
      (thread.issued? act).toList.length := by
  cases act with
  | call command =>
    cases hblocks : thread.blocks command with
    | true =>
      rw [perform_call_of_blocks hblocks]
      cases command <;> first | rfl | cases hblocks
    | false =>
      rw [perform_call_of_not_blocks hblocks]
      show (thread.session.perform command).trace.countP _ = (Option.map _ _).toList.length
      rw [Session.countP_isCreation_perform, Option.toList_map, List.length_map]
      rfl
  | borrow own =>
    cases hget : thread.session.contexts.get own with
    | error failure => rw [perform_borrow_of_error hget]; rfl
    | ok context =>
      cases hholds : thread.holds own with
      | true => rw [perform_borrow_of_holds hget hholds]; rfl
      | false => rw [perform_borrow_of_ok hget hholds]; rfl
  | work own task =>
    cases hlookup : thread.borrowed.lookup own with
    | none => rw [perform_work_of_none hlookup]; rfl
    | some context =>
      obtain ⟨calls, _, htrace⟩ := hwork thread.session.settings.environment context
      rw [perform_work_of_some hlookup, htrace]
      exact Event.countP_eq_zero_of_isInside Event.isCreation_of_isInside
        (context.isInside_log calls)
  | giveBack =>
    cases hborrowed : thread.borrowed with
    | nil => rw [perform_giveBack_of_nil hborrowed]; rfl
    | cons entry rest =>
      cases hget : thread.session.contexts.get entry.1 with
      | error failure => rw [perform_giveBack_of_error hborrowed hget]; rfl
      | ok stale => rw [perform_giveBack_of_ok hborrowed hget]; rfl

/-! ## Runs -/

/-- What happens in the course of acts. -/
def log (thread : Thread) (acts : List (Act ρ)) : List Event :=
  (Run.turns perform thread acts).flatMap (·.step.trace)

/-- How often the context of a handle is given up in the course of acts. -/
def releases (handle : Handle) (thread : Thread) (acts : List (Act ρ)) : Nat :=
  (Run.stages perform thread acts).countP fun stage =>
    (stage.1.released? stage.2).map (·.1) = some handle

/-- The log tells of as many releases as there are contexts more than now, with those that it
tells of being made. -/
theorem countP_isCreation_run {acts : List (Act ρ)}
    (hsafe : ∀ stage ∈ Run.stages perform thread acts, stage.1.Safe stage.2)
    (hworks : ∀ act ∈ acts, act.ByCalls) :
    (thread.log acts).countP Event.isCreation + thread.present.length =
      (thread.log acts).countP Event.isRelease +
        (Run.final perform thread acts).present.length := by
  -- The law of one act, added up along the acts.
  induction acts generalizing thread with
  | nil => rfl
  | cons act acts ih =>
    have hfirst : thread.Safe act := hsafe _ List.mem_cons_self
    have hwork := hworks act List.mem_cons_self
    have hrest := ih (fun stage hmem => hsafe stage (List.mem_cons_of_mem _ hmem))
      fun act hmem => hworks act (List.mem_cons_of_mem _ hmem)
    have hlaw := (present_perform hfirst).length_eq
    rw [List.length_append, List.length_append, Option.toList_map, List.length_map,
      ← (releases_perform hfirst.sound.lent hwork).countP,
      ← countP_isCreation_perform thread hwork] at hlaw
    show ((thread.perform act).trace ++ (thread.perform act).state.log acts).countP _ + _ =
      ((thread.perform act).trace ++ (thread.perform act).state.log acts).countP _ +
        (Run.final perform (thread.perform act).state acts).present.length
    rw [List.countP_append, List.countP_append]
    omega

/-- A handle that is known is issued no more, so its context is given up at most once, and then
it is not there. -/
theorem releases_run {acts : List (Act ρ)}
    (hsafe : ∀ stage ∈ Run.stages perform thread acts, stage.1.Safe stage.2)
    (hknown : thread.session.contexts.Known handle) :
    releases handle thread acts + (Run.final perform thread acts).present.count handle =
      thread.present.count handle := by
  induction acts generalizing thread with
  | nil => exact Nat.zero_add _
  | cons act acts ih =>
    have hfirst : thread.Safe act := hsafe _ List.mem_cons_self
    have hrest := ih (fun stage hmem => hsafe stage (List.mem_cons_of_mem _ hmem))
      (hfirst.known hknown)
    have hlaw := (present_perform hfirst).count_eq handle
    have hissued : (thread.issued? act).toList.count handle = 0 := by
      rw [List.count_eq_zero, Option.mem_toList]
      intro hissued
      obtain ⟨context, _, rfl⟩ := Option.map_eq_some_iff.mp hissued
      exact HandleTable.not_known_insert hfirst.sound.table context hknown
    have hreleased : ((thread.released? act).map (·.1)).toList.count handle =
        if (thread.released? act).map (·.1) = some handle then 1 else 0 := by
      cases (thread.released? act).map (·.1) with
      | none => rfl
      | some own =>
        rw [Option.toList_some, List.count_singleton]
        by_cases hsame : own = handle <;> simp [hsame]
    rw [List.count_append, List.count_append, hissued, hreleased] at hlaw
    show ((thread, act) :: Run.stages perform (thread.perform act).state acts).countP _ +
      (Run.final perform (thread.perform act).state acts).present.count handle = _
    rw [List.countP_cons]
    simp only [decide_eq_true_eq]
    have hsame : releases handle (thread.perform act).state acts =
      (Run.stages perform (thread.perform act).state acts).countP _ := rfl
    omega

/-- What is released is what the acts that reach the context, the last one included, make of it
by itself. -/
theorem Follows.released {solo : Solo} (h : Follows handle solo thread)
    (hreleased : thread.released? act = some (handle, context)) :
    thread.target? act = some handle ∧ context = (solo.perform act).state.context := by
  cases act with
  | call command =>
    obtain ⟨hended, hholds, before, hget, rfl⟩ := released?_call_eq_some_iff.mp hreleased
    refine ⟨(ended?_eq_some_iff.mp hended).2, ?_⟩
    rw [h.solo_eq ((context?_eq_some_iff hholds).mpr hget)]
    rfl
  | giveBack =>
    obtain ⟨⟨rest, hborrowed⟩, _⟩ := released?_giveBack_eq_some_iff.mp hreleased
    refine ⟨target?_giveBack_eq_some_iff.mpr ⟨context, rest, hborrowed⟩, ?_⟩
    have hlookup : thread.borrowed.lookup handle = some context := by
      rw [hborrowed, List.lookup_cons, beq_self_eq_true]
    rw [h.solo_eq (context?_of_lookup hlookup)]
    rfl
  | borrow own => cases hreleased
  | work own task => cases hreleased

/-- A destroy of a handle that is not live does nothing. -/
theorem perform_destroy_of_dead (hdead : thread.session.isLive handle = false) (device : UInt32) :
    thread.released? (.call (.destroy handle device) : Act ρ) = none ∧
      (thread.perform (.call (.destroy handle device) : Act ρ)).state = thread := by
  obtain ⟨failure, hget⟩ : ∃ failure, thread.session.contexts.get handle = .error failure := by
    cases hget : thread.session.contexts.get handle with
    | error failure => exact ⟨failure, rfl⟩
    | ok context => cases (Session.isLive_of_ok hget).symm.trans hdead
  refine ⟨released?_of_not_ended (ended?_call_of_error rfl hget), ?_⟩
  show { thread with session := (thread.session.destroy handle device).state } = thread
  rw [Session.destroy_state_of_error hget]

/-- The context of a live handle has been given up once as soon as it is not there any more, and
not before. -/
theorem releases_of_live {acts : List (Act ρ)} (hsound : thread.Sound)
    (hreached : (Run.final perform thread acts).Sound)
    (hsafe : ∀ stage ∈ Run.stages perform thread acts, stage.1.Safe stage.2)
    (hlive : thread.session.isLive handle = true)
    (hknown : thread.session.contexts.Known handle) :
    releases handle thread acts =
      if (Run.final perform thread acts).session.isLive handle ||
        (Run.final perform thread acts).holds handle then 0 else 1 := by
  have hthere : handle ∈ thread.present := (mem_present hsound).mpr (Or.inl hlive)
  have hgone : ((Run.final perform thread acts).session.isLive handle ||
      (Run.final perform thread acts).holds handle) = true ↔
        handle ∈ (Run.final perform thread acts).present := by
    rw [mem_present hreached, Bool.or_eq_true]
  have hcount := releases_run hsafe hknown
  rw [List.Nodup.count (nodup_present hsound), if_pos hthere,
    List.Nodup.count (nodup_present hreached)] at hcount
  by_cases hmem : handle ∈ (Run.final perform thread acts).present
  · rw [if_pos hmem] at hcount
    rw [if_pos (hgone.mpr hmem)]
    omega
  · rw [if_neg hmem] at hcount
    rw [if_neg fun h => hmem (hgone.mp h)]
    omega

theorem Follows.released_run {solo : Solo} (h : Follows handle solo thread) {first : List (Act ρ)}
    (hsafe : ∀ stage ∈ Run.stages perform thread first, stage.1.Safe stage.2)
    (hreleased : (Run.final perform thread first).released? act = some (handle, context)) :
    context = (Run.final Solo.perform solo
      ((own handle thread (first ++ [act])).map (·.2))).context := by
  obtain ⟨_, hreached⟩ := follows_run hsafe h
  obtain ⟨htarget, hcontext⟩ := hreached.released hreleased
  rw [hcontext, own_append, own_cons_of_pos (by rw [decide_eq_true htarget, Bool.true_or]),
    List.map_append, Run.final_append]
  rfl

/-- Every context is released exactly once.  A thread does anything to a session, and works on
borrowed contexts by calls.  As long as there is room for all contexts and no slot is worn out,
the contexts that were created are those that were released and those that are there: with
nothing borrowed, those of the live handles.  An act that gives a context up tells of its
release at its end, and no other act tells of one; in particular no destroy of a handle that
is not live.  A context that was made is given up once, when its handle is ended or when it
is given back after that, and it is released as its own acts up to then have left it. -/
theorem released_once (settings : Settings) (ties : TieBreak) (acts : List (Act ρ))
    (hroom : ∀ first, first <+: acts →
      (Run.final perform (fresh settings ties) first).session.contexts.size < 0xffffffff)
    (hworn : ∀ index, endings index (fresh settings ties) acts < 0x100000000)
    (hworks : ∀ act ∈ acts, act.ByCalls) :
    (∀ first, first <+: acts →
      let log := (fresh settings ties).log first
      let reached := Run.final perform (fresh settings ties) first
      log.countP Event.isCreation = log.countP Event.isRelease + reached.present.length ∧
      reached.present.Nodup ∧
      (∀ handle, handle ∈ reached.present ↔
        reached.session.isLive handle = true ∨ reached.holds handle = true) ∧
      (reached.borrowed = [] →
        log.countP Event.isCreation =
          log.countP Event.isRelease + reached.session.contexts.size ∧
        reached.session.contexts.size = reached.present.length ∧
        ∀ handle, handle ∈ reached.present ↔ reached.session.isLive handle = true)) ∧
    (∀ stage ∈ Run.stages perform (fresh settings ties) acts,
      stage.2.Releases (stage.1.released? stage.2) (stage.1.perform stage.2).trace ∧
      ∀ handle device, stage.2 = .call (.destroy handle device) →
        stage.1.session.isLive handle = false →
        stage.1.released? stage.2 = none ∧ (stage.1.perform stage.2).state = stage.1) ∧
    ∀ before creation after context, acts = before ++ .call creation :: after →
      creation.made? ties = some context →
      let made := (Run.final perform (fresh settings ties) before).perform (.call creation : Act ρ)
      ∃ handle, made.result = .replied (.issued handle) ∧
        (∀ first, first <+: after →
          let reached := Run.final perform made.state first
          releases handle made.state first =
            if reached.session.isLive handle || reached.holds handle then 0 else 1) ∧
        ∀ first act rest released, after = first ++ act :: rest →
          (Run.final perform made.state first).released? act = some (handle, released) →
          released = (Run.final Solo.perform
            { settings := made.state.session.settings, context }
            ((own handle made.state (first ++ [act])).map (·.2))).context := by
  have hsafe : ∀ stage ∈ Run.stages perform (fresh settings ties) acts,
      stage.1.Safe stage.2 := fun stage hmem => safe_of_mem_stages hroom hworn hmem
  refine ⟨?_, ?_, ?_⟩
  · intro first hfirst log reached
    have hsound : reached.Sound := sound_of_append hroom hworn hfirst
    have hcount : log.countP Event.isCreation + 0 =
        log.countP Event.isRelease + reached.present.length :=
      countP_isCreation_run (safe_stages_of_append hfirst hsafe)
        fun act hmem => hworks act (hfirst.subset hmem)
    refine ⟨hcount, nodup_present hsound, fun handle => mem_present hsound, ?_⟩
    intro hnil
    have hlength : reached.session.contexts.size = reached.present.length := by
      rw [present_of_nil hnil, HandleTable.length_handles hsound.table]
    refine ⟨by rw [hlength]; exact hcount, hlength, ?_⟩
    intro handle
    rw [present_of_nil hnil, HandleTable.mem_handles hsound.table, Session.isLive_eq_true_iff]
  · intro stage hmem
    have hsound := (hsafe stage hmem).sound
    obtain ⟨before, after, hsplit, _⟩ := Run.exists_of_mem_stages hmem
    have hact : stage.2 ∈ acts := by
      rw [hsplit]
      exact List.mem_append_right _ List.mem_cons_self
    refine ⟨releases_perform hsound.lent (hworks _ hact), ?_⟩
    intro handle device hdestroy hdead
    rw [hdestroy]
    exact perform_destroy_of_dead hdead device
  · intro before creation after context hsplit hmade made
    subst hsplit
    rw [Run.stages_append] at hsafe
    have hstart : (Run.final perform (fresh settings ties) before).Safe (.call creation : Act ρ) :=
      hsafe (_, _) (List.mem_append_right _ List.mem_cons_self)
    have hafter : ∀ stage ∈ Run.stages perform made.state after, stage.1.Safe stage.2 :=
      fun stage hmem => hsafe stage (List.mem_append_right _ (List.mem_cons_of_mem _ hmem))
    obtain ⟨handle, hissued, hget, hfollows⟩ :=
      follows_made hstart ((ties_reached settings ties before).symm ▸ hmade)
    refine ⟨handle, hissued, ?_, ?_⟩
    · intro first hfirst reached
      have hlonger : before ++ .call creation :: first <+: before ++ .call creation :: after :=
        (List.prefix_append_right_inj before).mpr (List.cons_prefix_cons.mpr ⟨rfl, hfirst⟩)
      have hsound := sound_of_append hroom hworn hlonger
      rw [Run.final_append] at hsound
      exact releases_of_live hstart.perform hsound (safe_stages_of_append hfirst hafter)
        (Session.isLive_of_ok hget) hfollows.known
    · intro first act rest released hrest hreleased
      have hfirst : first <+: after := ⟨act :: rest, hrest.symm⟩
      exact hfollows.released_run (safe_stages_of_append hfirst hafter) hreleased

/-- A borrowed context is destroyed, compiles a kernel, and crashes over another one before it
is given back; its handle and the null handle are destroyed in vain, and its slot is used
again. -/
theorem released_once_inside :
    let backend : Backend :=
      { name := "brittle"
        answer := fun received request =>
          if received = [] then .done { ptx := "p", device := request.device, variant := 0 }
          else .crashed "out of memory" }
    let options : Options := { kernelDirs := [], systemDirs := [] }
    let env : Environment := fun _ => some "/"
    let compile (source : String) : Act Unit :=
      .work 1 fun _ context => (context.call ⟨env, source, "k"⟩).map fun _ => ()
    let after : List (Act Unit) :=
      [.borrow 1, .call (.destroy 1 5), compile "a", compile "b", .giveBack,
        .call (.destroy 1 5), .call (.destroy 0 5), .call (.create 7)]
    let acts := .call (.createWith 5 options backend) :: after
    let made := (fresh .empty .oldest).perform
      (.call (.createWith 5 options backend) : Act Unit)
    let reached := Run.final perform (fresh .empty .oldest) acts
    Event.contextReleased 5 1 1 ∈ (fresh .empty .oldest).log acts ∧
      ((fresh .empty .oldest).log acts).countP Event.isCreation =
        ((fresh .empty .oldest).log acts).countP Event.isRelease +
          reached.session.contexts.size ∧
      releases 1 made.state after = 1 := by
  intro backend options env compile after acts made reached
  have hworks : ∀ act ∈ acts, act.ByCalls := by
    intro act hmem
    simp only [acts, after, List.mem_cons, List.not_mem_nil, or_false] at hmem
    rcases hmem with rfl | rfl | rfl | rfl | rfl | rfl | rfl | rfl | rfl
    case inr.inr.inr.inl => exact Act.byCalls_call 1 (fun _ _ => ⟨env, "a", "k"⟩) fun _ => ()
    case inr.inr.inr.inr.inl => exact Act.byCalls_call 1 (fun _ _ => ⟨env, "b", "k"⟩) fun _ => ()
    all_goals trivial
  have hshort : acts.length < 0xffffffff := by decide
  obtain ⟨hroom, hworn⟩ := @room_of_length _ .empty .oldest acts hshort
  obtain ⟨hcounts, _, hreleases⟩ := released_once .empty .oldest acts hroom hworn hworks
  have hnil : reached.borrowed = [] := List.eq_nil_of_length_eq_zero (by decide +kernel)
  obtain ⟨handle, hissued, hmade, _⟩ := hreleases [] _ after _ rfl rfl
  have hone : made.result = .replied (.issued 1) := rfl
  obtain rfl : handle = 1 :=
    Session.Reply.issued.inj (Answer.replied.inj (hissued.symm.trans hone))
  have hgone := hmade after List.prefix_rfl
  refine ⟨by decide +kernel, ((hcounts acts List.prefix_rfl).2.2.2 hnil).1, ?_⟩
  exact hgone.trans (if_neg (by decide +kernel))

end Thread
end KernelJit
