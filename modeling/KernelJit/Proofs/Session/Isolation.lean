/-
Contexts are isolated from each other.

The acts of a thread that reach a context lead to what they lead to when the context is all
there is, with the same changes of the settings in between.  Each act either reaches the
context, and then both sides do the same (`follows_of_eq`), or it leaves the context where it
is and as it is (`context?_of_ne`).  What keeps an act that is meant for something else from
the context is that the handle of the context is issued once: whatever handle another act
presents, be it null, made up or of an earlier context in the same slot, is another one.
-/
import KernelJit.Proofs.Session.Solo
import Mathlib.Data.List.Infix

namespace KernelJit

variable {ρ : Type}

/-- Whether an act sets a variable. -/
def Act.sets : Act ρ → Bool
  | .call (.setVariable ..) => true
  | _ => false

namespace Thread

variable {thread : Thread} {act : Act ρ} {handle : Handle} {context : Context} {solo : Solo}

/-- The context of a handle as it is now: as its borrower has it, or else as it stands in the
table. -/
def context? (thread : Thread) (handle : Handle) : Option Context :=
  match thread.borrowed.lookup handle with
  | some context => some context
  | none => (thread.session.view handle).toOption

/-- The acts of a run that reach the context of a handle while the handle is live or the
context is borrowed, and those that set a variable, with the states that they start in. -/
def own (handle : Handle) (thread : Thread) (acts : List (Act ρ)) : List (Thread × Act ρ) :=
  (Run.stages perform thread acts).filter fun stage =>
    stage.1.target? stage.2 = some handle || stage.2.sets

/-- A context by itself goes along with the context of a handle. -/
structure Follows (handle : Handle) (solo : Solo) (thread : Thread) : Prop where
  settings : solo.settings = thread.session.settings
  known : thread.session.contexts.Known handle
  context : ∀ context, thread.context? handle = some context → context = solo.context

theorem context?_of_lookup (h : thread.borrowed.lookup handle = some context) :
    thread.context? handle = some context := by
  unfold context?
  rw [h]

theorem lookup_of_not_holds (h : thread.holds handle = false) :
    thread.borrowed.lookup handle = none :=
  Option.isNone_iff_eq_none.mp (by rw [← Option.not_isSome, Bool.not_eq_true']; exact h)

theorem context?_eq_some_iff (h : thread.holds handle = false) :
    thread.context? handle = some context ↔ thread.session.contexts.get handle = .ok context := by
  unfold context? Session.view
  rw [lookup_of_not_holds h]
  cases thread.session.contexts.get handle with
  | error failure => exact iff_of_false (fun h => nomatch h) (fun h => nomatch h)
  | ok current => exact ⟨fun h => by cases h; rfl, fun h => by cases h; rfl⟩

theorem exists_context? (h : thread.session.isLive handle = true ∨ thread.holds handle = true) :
    ∃ context, thread.context? handle = some context := by
  cases hholds : thread.holds handle with
  | true =>
    obtain ⟨context, hlookup⟩ := Option.isSome_iff_exists.mp hholds
    exact ⟨context, context?_of_lookup hlookup⟩
  | false =>
    rw [hholds] at h
    obtain ⟨context, hget⟩ := Session.isLive_eq_true_iff.mp (h.resolve_right Bool.false_ne_true)
    exact ⟨context, (context?_eq_some_iff hholds).mpr hget⟩

theorem lookup_rewrite (thread : Thread) (own other : Handle) (context : Context) :
    (thread.rewrite own context).borrowed.lookup other =
      if other = own then (thread.borrowed.lookup own).map fun _ => context
      else thread.borrowed.lookup other := by
  unfold rewrite
  dsimp only
  induction thread.borrowed with
  | nil => by_cases hsame : other = own <;> simp [hsame]
  | cons entry rest ih =>
    obtain ⟨key, value⟩ := entry
    rw [List.map_cons, List.lookup_cons (a := own), List.lookup_cons (a := other)]
    by_cases hkey : key = own
    · subst hkey
      rw [if_pos rfl, List.lookup_cons, ih, beq_self_eq_true]
      by_cases hsame : other = key
      · subst hsame
        simp
      · rw [if_neg hsame, beq_eq_false_iff_ne.mpr hsame, if_neg hsame]
    · have hown : (own == key) = false := beq_eq_false_iff_ne.mpr (Ne.symm hkey)
      rw [if_neg hkey, List.lookup_cons, ih, hown]
      by_cases hsame : other = own
      · rw [if_pos hsame, hsame, hown, if_pos rfl]
      · rw [if_neg hsame, if_neg hsame]

/-! ## Acts that do not reach the context -/

theorem lookup_perform_of_ne (hne : thread.target? act ≠ some handle) :
    (thread.perform act).state.borrowed.lookup handle = thread.borrowed.lookup handle := by
  have hmoves := moves_perform thread act
  generalize (thread.perform act).state = after at hmoves
  cases hmoves with
  | stays => rfl
  | calls => rfl
  | @borrows own context hget hholds =>
    have hother : handle ≠ own := by
      intro hsame
      subst hsame
      exact hne (target?_borrow_eq_some_iff.mpr ⟨rfl, Session.isLive_of_ok hget, hholds⟩)
    show List.lookup handle ((own, context) :: thread.borrowed) = _
    rw [List.lookup_cons, beq_eq_false_iff_ne.mpr hother]
  | @works own context task hlookup current =>
    have hother : handle ≠ own := by
      intro hsame
      subst hsame
      exact hne (target?_work_eq_some_iff.mpr ⟨rfl, by rw [holds, hlookup]; rfl⟩)
    rw [lookup_rewrite, if_neg hother]
  | @givesBack own context borrowed _ hborrowed =>
    have hother : handle ≠ own := by
      intro hsame
      subst hsame
      exact hne (target?_giveBack_eq_some_iff.mpr ⟨context, borrowed, hborrowed⟩)
    rw [hborrowed, List.lookup_cons, beq_eq_false_iff_ne.mpr hother]

theorem get_of_ne (hsafe : thread.Safe act) (hknown : thread.session.contexts.Known handle)
    (hne : thread.target? act ≠ some handle) :
    (thread.perform act).state.session.contexts.get handle =
      thread.session.contexts.get handle :=
  (change_perform thread act).get_of_ne hsafe.sound.table hknown hne

theorem context?_of_ne (hsafe : thread.Safe act) (hknown : thread.session.contexts.Known handle)
    (hne : thread.target? act ≠ some handle) :
    (thread.perform act).state.context? handle = thread.context? handle := by
  unfold context? Session.view
  rw [lookup_perform_of_ne hne, get_of_ne hsafe hknown hne]

/-! ## Acts that reach it -/

theorem Follows.solo_eq (h : Follows handle solo thread)
    (hcontext : thread.context? handle = some context) :
    solo = { settings := thread.session.settings, context } := by
  obtain ⟨settings, own⟩ := solo
  rw [show settings = thread.session.settings from h.settings,
    show own = context from (h.context context hcontext).symm]

/-- A command that finds the context in the table. -/
theorem follows_call_of_free {command : Session.Command}
    (hsafe : thread.Safe (.call command : Act ρ)) (h : Follows handle solo thread)
    (heq : thread.target? (.call command : Act ρ) = some handle)
    (hfree : thread.holds handle = false) :
    (thread.perform (.call command : Act ρ)).observed =
        (solo.perform (.call command : Act ρ)).observed ∧
      ∀ found, (thread.perform (.call command : Act ρ)).state.context? handle = some found →
        found = (solo.perform (.call command : Act ρ)).state.context := by
  obtain ⟨hhandle, hlive, hblocks⟩ := target?_call_eq_some_iff.mp heq
  obtain ⟨context, hget⟩ := Session.isLive_eq_true_iff.mp hlive
  obtain ⟨hobserved, hstate⟩ := Session.perform_of_ok hget hhandle
  have halive := (change_perform thread (.call command : Act ρ)).live_iff hsafe.sound.table hget
  rw [perform_call_of_not_blocks hblocks] at halive ⊢
  rw [h.solo_eq ((context?_eq_some_iff hfree).mpr hget)]
  refine ⟨Step.observed_map (f := Answer.replied) hobserved, ?_⟩
  intro found hfound
  have hafter : (thread.session.perform command).state.contexts.get handle = .ok found :=
    (@context?_eq_some_iff ⟨(thread.session.perform command).state, thread.borrowed⟩ handle _
      hfree).mp hfound
  cases hends : command.ends with
  | false =>
    rw [hstate hends] at hafter
    exact (Except.ok.inj hafter).symm
  | true =>
    have hended : thread.ended? (.call command : Act ρ) = some handle :=
      (if_pos hends).trans heq
    exact absurd hended (halive.mp ⟨found, hafter⟩)

/-- A command that reaches the handle of a borrowed context does not reach the context. -/
theorem follows_call_of_holds {command : Session.Command} (h : Follows handle solo thread)
    (heq : thread.target? (.call command : Act ρ) = some handle)
    (hholds : thread.holds handle = true) :
    (thread.perform (.call command : Act ρ)).observed =
        (solo.perform (.call command : Act ρ)).observed ∧
      ∀ found, (thread.perform (.call command : Act ρ)).state.context? handle = some found →
        found = (solo.perform (.call command : Act ρ)).state.context := by
  obtain ⟨hhandle, hlive, hblocks⟩ := target?_call_eq_some_iff.mp heq
  obtain ⟨stale, hget⟩ := Session.isLive_eq_true_iff.mp hlive
  obtain ⟨context, hlookup⟩ := Option.isSome_iff_exists.mp hholds
  -- The command is not blocked although the context is borrowed, so it needs no lock.
  have hunlocked : command.locked? = none := by
    rcases command.locked?_eq with hnone | hlocked
    · exact hnone
    · unfold blocks at hblocks
      rw [hlocked, hhandle] at hblocks
      dsimp only at hblocks
      rw [hholds, hlive] at hblocks
      cases hblocks
  obtain ⟨reply, hreply⟩ := Context.serve_of_unlocked hunlocked
  obtain ⟨hobserved, _⟩ := Session.perform_of_ok hget hhandle
  rw [perform_call_of_not_blocks hblocks, h.solo_eq (context?_of_lookup hlookup)]
  rw [hreply] at hobserved
  constructor
  · show _ = ((context.serve thread.session.settings.environment command).map
      Answer.replied).observed
    rw [hreply]
    exact Step.observed_map (f := Answer.replied) (b := .unchanged context reply) hobserved
  · intro found hfound
    show found = (context.serve thread.session.settings.environment command).state
    rw [hreply]
    have hsame := @context?_of_lookup ⟨(thread.session.perform command).state, thread.borrowed⟩
      handle context hlookup
    exact Option.some.inj (hfound.symm.trans hsame)

theorem follows_of_eq (hsafe : thread.Safe act) (h : Follows handle solo thread)
    (heq : thread.target? act = some handle) :
    (thread.perform act).observed = (solo.perform act).observed ∧
      Follows handle (solo.perform act).state (thread.perform act).state := by
  suffices hstep : (thread.perform act).observed = (solo.perform act).observed ∧
      (∀ found, (thread.perform act).state.context? handle = some found →
        found = (solo.perform act).state.context) ∧
      (solo.perform act).state.settings = act.settings solo.settings by
    obtain ⟨hobserved, hcontext, hsettings⟩ := hstep
    refine ⟨hobserved, ?_, hsafe.known h.known, hcontext⟩
    rw [hsettings, (frame_perform thread act).1, h.settings]
  cases act with
  | call command =>
    cases hholds : thread.holds handle with
    | false =>
      obtain ⟨hobserved, hcontext⟩ := follows_call_of_free hsafe h heq hholds
      exact ⟨hobserved, hcontext, rfl⟩
    | true =>
      obtain ⟨hobserved, hcontext⟩ := follows_call_of_holds h heq hholds
      exact ⟨hobserved, hcontext, rfl⟩
  | borrow own =>
    obtain ⟨rfl, hlive, hfree⟩ := target?_borrow_eq_some_iff.mp heq
    obtain ⟨context, hget⟩ := Session.isLive_eq_true_iff.mp hlive
    rw [perform_borrow_of_ok hget hfree, h.solo_eq ((context?_eq_some_iff hfree).mpr hget)]
    refine ⟨rfl, ?_, rfl⟩
    intro found hfound
    have hlookup : (thread.borrow own context).borrowed.lookup own = some context := by
      show List.lookup own ((own, context) :: thread.borrowed) = _
      rw [List.lookup_cons, beq_self_eq_true]
    exact Option.some.inj (hfound.symm.trans (context?_of_lookup hlookup))
  | work own task =>
    obtain ⟨rfl, hholds⟩ := target?_work_eq_some_iff.mp heq
    obtain ⟨context, hlookup⟩ := Option.isSome_iff_exists.mp hholds
    rw [perform_work_of_some hlookup, h.solo_eq (context?_of_lookup hlookup)]
    refine ⟨rfl, ?_, rfl⟩
    intro found hfound
    have hnew := lookup_rewrite thread own own
      (task thread.session.settings.environment context).state
    rw [if_pos rfl, hlookup] at hnew
    exact Option.some.inj (hfound.symm.trans (context?_of_lookup hnew))
  | giveBack =>
    obtain ⟨context, rest, hborrowed⟩ := target?_giveBack_eq_some_iff.mp heq
    have hlookup : thread.borrowed.lookup handle = some context := by
      rw [hborrowed, List.lookup_cons, beq_self_eq_true]
    -- Nothing is borrowed twice: after the act the context stands in the table or nowhere.
    have hrest : ∀ session, holds ⟨session, rest⟩ handle = false := by
      intro session
      have hnodup := hsafe.sound.nodup
      rw [keys, hborrowed] at hnodup
      rw [← Bool.not_eq_true, holds_eq_true_iff]
      exact (List.nodup_cons.mp hnodup).1
    rw [h.solo_eq (context?_of_lookup hlookup)]
    cases hget : thread.session.contexts.get handle with
    | error failure =>
      rw [perform_giveBack_of_error hborrowed hget]
      refine ⟨rfl, ?_, rfl⟩
      intro found hfound
      have hlive := (context?_eq_some_iff (hrest _)).mp hfound
      cases hget.symm.trans hlive
    | ok stale =>
      rw [perform_giveBack_of_ok hborrowed hget]
      refine ⟨rfl, ?_, rfl⟩
      intro found hfound
      have hlive := (context?_eq_some_iff (hrest _)).mp hfound
      exact Except.ok.inj (hlive.symm.trans (HandleTable.get_replace_self hget context))

/-! ## Acts that set a variable -/

theorem observed_of_sets (thread : Thread) (solo : Solo) (h : act.sets = true) :
    (thread.perform act).observed = (solo.perform act).observed ∧
      (solo.perform act).state = { solo with settings := act.settings solo.settings } := by
  cases act with
  | call command =>
    cases command with
    | setVariable var value => exact ⟨rfl, rfl⟩
    | _ => cases h
  | _ => cases h

theorem settings_of_not_sets (h : act.sets = false) (settings : Settings) :
    act.settings settings = settings := by
  cases act with
  | call command =>
    cases command with
    | setVariable var value => cases h
    | _ => rfl
  | _ => rfl

/-! ## Runs -/

theorem own_cons_of_neg {acts : List (Act ρ)}
    (h : (thread.target? act = some handle || act.sets) = false) :
    own handle thread (act :: acts) = own handle (thread.perform act).state acts :=
  List.filter_cons_of_neg (by rw [h]; exact Bool.false_ne_true)

theorem own_cons_of_pos {acts : List (Act ρ)}
    (h : (thread.target? act = some handle || act.sets) = true) :
    own handle thread (act :: acts) =
      (thread, act) :: own handle (thread.perform act).state acts :=
  List.filter_cons_of_pos h

theorem own_append (handle : Handle) (thread : Thread) (a b : List (Act ρ)) :
    own handle thread (a ++ b) =
      own handle thread a ++ own handle (Run.final perform thread a) b := by
  rw [own, Run.stages_append, List.filter_append]
  rfl

/-- A context by itself goes along, or stays where it is, in every act. -/
theorem follows_perform (hsafe : thread.Safe act) (h : Follows handle solo thread) :
    if thread.target? act = some handle || act.sets then
      (thread.perform act).observed = (solo.perform act).observed ∧
        Follows handle (solo.perform act).state (thread.perform act).state
    else Follows handle solo (thread.perform act).state := by
  by_cases heq : thread.target? act = some handle
  · rw [if_pos (by rw [decide_eq_true heq, Bool.true_or])]
    exact follows_of_eq hsafe h heq
  · have hcontext := context?_of_ne hsafe h.known heq
    rw [decide_eq_false heq, Bool.false_or]
    cases hsets : act.sets with
    | false =>
      rw [if_neg Bool.false_ne_true]
      refine ⟨?_, hsafe.known h.known, ?_⟩
      · rw [(frame_perform thread act).1, settings_of_not_sets hsets]
        exact h.settings
      · rw [hcontext]
        exact h.context
    | true =>
      obtain ⟨hobserved, hstate⟩ := observed_of_sets thread solo hsets
      rw [if_pos rfl]
      refine ⟨hobserved, ?_, hsafe.known h.known, ?_⟩
      · rw [hstate, (frame_perform thread act).1, h.settings]
      · rw [hcontext, hstate]
        exact h.context

theorem follows_run {acts : List (Act ρ)}
    (hsafe : ∀ stage ∈ Run.stages perform thread acts, stage.1.Safe stage.2)
    (h : Follows handle solo thread) :
    (own handle thread acts).map (fun stage => (stage.1.perform stage.2).observed) =
        (Run.turns Solo.perform solo ((own handle thread acts).map (·.2))).map
          (·.step.observed) ∧
      Follows handle (Run.final Solo.perform solo ((own handle thread acts).map (·.2)))
        (Run.final perform thread acts) := by
  induction acts generalizing thread solo with
  | nil => exact ⟨rfl, h⟩
  | cons act acts ih =>
    have hstep := follows_perform (hsafe _ List.mem_cons_self) h
    have hrest : ∀ stage ∈ Run.stages perform (thread.perform act).state acts,
        stage.1.Safe stage.2 := fun stage hmem => hsafe stage (List.mem_cons_of_mem _ hmem)
    cases hown : (thread.target? act = some handle || act.sets : Bool) with
    | false =>
      rw [hown] at hstep
      rw [own_cons_of_neg hown]
      exact ih hrest hstep
    | true =>
      rw [hown] at hstep
      rw [own_cons_of_pos hown]
      obtain ⟨hobserved, hfollows⟩ := hstep
      obtain ⟨hseen, hfinal⟩ := ih hrest hfollows
      exact ⟨List.cons_eq_cons.mpr ⟨hobserved, hseen⟩, hfinal⟩

/-! ## The end of a handle -/

theorem ended?_eq_some_iff : thread.ended? act = some handle ↔
    act.ends = true ∧ thread.target? act = some handle := by
  unfold ended?
  exact Option.ite_none_right_eq_some

theorem ends_of_sets (h : act.sets = true) : act.ends = false := by
  cases act with
  | call command =>
    cases command with
    | setVariable var value => rfl
    | _ => cases h
  | _ => cases h

theorem past_run {acts : List (Act ρ)}
    (hsafe : ∀ stage ∈ Run.stages perform thread acts, stage.1.Safe stage.2)
    (hpast : thread.session.contexts.Past handle) :
    (Run.final perform thread acts).session.contexts.Past handle := by
  induction acts generalizing thread with
  | nil => exact hpast
  | cons act acts ih =>
    have hfirst := hsafe _ List.mem_cons_self
    apply ih fun stage hmem => hsafe stage (List.mem_cons_of_mem _ hmem)
    refine HandleTable.past_of_age_le ?_ hpast
    intro index
    rw [hfirst.age]
    exact Nat.le_add_right _ _

/-- A handle is live until an act that reaches it ends it. -/
theorem isLive_run {acts : List (Act ρ)}
    (hsafe : ∀ stage ∈ Run.stages perform thread acts, stage.1.Safe stage.2)
    (hget : thread.session.contexts.get handle = .ok context) :
    (Run.final perform thread acts).session.isLive handle = true ↔
      ∀ stage ∈ own handle thread acts, stage.2.ends = false := by
  induction acts generalizing thread context with
  | nil =>
    refine iff_of_true (Session.isLive_of_ok hget) ?_
    intro stage hmem
    cases hmem
  | cons act acts ih =>
    have hfirst := hsafe _ List.mem_cons_self
    have hrest : ∀ stage ∈ Run.stages perform (thread.perform act).state acts,
        stage.1.Safe stage.2 := fun stage hmem => hsafe stage (List.mem_cons_of_mem _ hmem)
    have halive := (change_perform thread act).live_iff hfirst.sound.table hget
    by_cases hended : thread.ended? act = some handle
    -- A handle that is ended here is past, and stays so in all the acts that follow.
    · obtain ⟨hends, htarget⟩ := ended?_eq_some_iff.mp hended
      apply iff_of_false
      · have hpast : (thread.perform act).state.session.contexts.Past handle := by
          rcases hfirst.known (Or.inl ⟨context, hget⟩) with hlive | hpast
          · exact absurd hended (halive.mp hlive)
          · exact hpast
        have hgone := HandleTable.get_of_past (past_run hrest hpast)
        show ¬(Run.final perform (thread.perform act).state acts).session.isLive handle = true
        rw [Session.isLive_of_error hgone]
        exact Bool.false_ne_true
      · intro hnone
        rw [own_cons_of_pos (by rw [decide_eq_true htarget, Bool.true_or])] at hnone
        cases (hnone _ List.mem_cons_self).symm.trans hends
    · obtain ⟨found, hfound⟩ := halive.mpr hended
      show (Run.final perform (thread.perform act).state acts).session.isLive handle = true ↔ _
      rw [ih hrest hfound]
      cases hown : (thread.target? act = some handle || act.sets : Bool) with
      | false => rw [own_cons_of_neg hown]
      | true =>
        rw [own_cons_of_pos hown, List.forall_mem_cons]
        refine (and_iff_right ?_).symm
        cases hends : act.ends with
        | false => rfl
        | true =>
          rcases (Bool.or_eq_true _ _).mp hown with htarget | hsets
          · exact absurd (ended?_eq_some_iff.mpr ⟨hends, of_decide_eq_true htarget⟩) hended
          · exact hends.symm.trans (ends_of_sets hsets)

/-! ## The law -/

theorem perform_made {session : Session} {creation : Session.Command}
    (hmade : creation.made? session.ties = some context) :
    (session.perform creation).result = .issued (session.contexts.insert context).1 ∧
      (session.perform creation).state =
        { session with contexts := (session.contexts.insert context).2 } := by
  cases creation with
  | create device =>
    cases hmade
    exact ⟨rfl, rfl⟩
  | createWith device options backend =>
    cases hmade
    exact ⟨rfl, rfl⟩
  | _ => cases hmade

/-- A new context gets a handle that was not known before. -/
theorem follows_made {creation : Session.Command} (hsafe : thread.Safe (.call creation : Act ρ))
    (hmade : creation.made? thread.session.ties = some context) :
    let made := thread.perform (.call creation : Act ρ)
    ∃ handle, made.result = .replied (.issued handle) ∧
      made.state.session.contexts.get handle = .ok context ∧
      Follows handle { settings := made.state.session.settings, context } made.state := by
  intro made
  have hsound := hsafe.sound.table
  obtain ⟨hissued, hstate⟩ := perform_made hmade
  have hblocks : thread.blocks creation = false := by
    cases creation with
    | create device => rfl
    | createWith device options backend => rfl
    | _ => cases hmade
  have hmake : made = _ := perform_call_of_not_blocks hblocks
  have hget : made.state.session.contexts.get (thread.session.contexts.insert context).1 =
      .ok context := by
    rw [hmake, hstate]
    exact HandleTable.get_insert_self hsound context
  have hfree : made.state.holds (thread.session.contexts.insert context).1 = false := by
    rw [hmake, ← Bool.not_eq_true]
    intro hholds
    exact HandleTable.not_known_insert hsound context
      (hsafe.sound.known _ (holds_eq_true_iff.mp hholds))
  refine ⟨(thread.session.contexts.insert context).1, ?_, hget, rfl, Or.inl ⟨context, hget⟩, ?_⟩
  · rw [hmake, hissued]
  · intro found hfound
    exact Except.ok.inj (((context?_eq_some_iff hfree).mp hfound).symm.trans hget)

theorem ties_reached (settings : Settings) (ties : TieBreak) (acts : List (Act ρ)) :
    (Run.final perform (fresh settings ties) acts).session.ties = ties := by
  refine Run.final_of_preserved (P := fun thread : Thread => thread.session.ties = ties) rfl ?_
  intro thread turn _ hties hturn
  rw [hturn, (frame_perform thread turn.command).2]
  exact hties

/-- Contexts are isolated.  A thread does anything to a session: it makes contexts, borrows
them and works on them, calls any entry point with any handle, and sets variables, in any
order.  As long as there is room for all contexts and no slot is worn out, each context that
is made goes through its own acts as it does by itself: these are the acts that reach it, from
its creation on, and those that set a variable.  The results, the calls of the backend and
everything else that happens in the context are the same, and so is the context after them.
Its handle is live until one of its own acts ends it.  No other act changes it, or the
liveness of its handle. -/
theorem contexts_isolated (settings : Settings) (ties : TieBreak) (before after : List (Act ρ))
    {creation : Session.Command} {context : Context}
    (hmade : creation.made? ties = some context)
    (hroom : ∀ first, first <+: before ++ .call creation :: after →
      (Run.final perform (fresh settings ties) first).session.contexts.size < 0xffffffff)
    (hworn : ∀ index,
      endings index (fresh settings ties) (before ++ .call creation :: after) < 0x100000000) :
    let made := (Run.final perform (fresh settings ties) before).perform (.call creation : Act ρ)
    let solo : Solo := { settings := made.state.session.settings, context }
    ∃ handle, made.result = .replied (.issued handle) ∧
      (∀ first, first <+: after →
        let reached := Run.final perform made.state first
        let acts := (own handle made.state first).map (·.2)
        let alone := Run.final Solo.perform solo acts
        (own handle made.state first).map (fun stage => (stage.1.perform stage.2).observed) =
          (Run.turns Solo.perform solo acts).map (·.step.observed) ∧
        (reached.session.isLive handle = true ∨ reached.holds handle = true →
          reached.context? handle = some alone.context) ∧
        (reached.session.isLive handle = true ↔ ∀ act ∈ acts, act.ends = false)) ∧
      ∀ stage ∈ Run.stages perform made.state after, stage.1.target? stage.2 ≠ some handle →
        (stage.1.perform stage.2).state.context? handle = stage.1.context? handle ∧
        (stage.1.perform stage.2).state.session.isLive handle =
          stage.1.session.isLive handle := by
  intro made solo
  have hsafe : ∀ stage ∈ Run.stages perform (fresh settings ties)
      (before ++ .call creation :: after), stage.1.Safe stage.2 :=
    fun stage hmem => safe_of_mem_stages hroom hworn hmem
  rw [Run.stages_append] at hsafe
  have hstart : (Run.final perform (fresh settings ties) before).Safe (.call creation : Act ρ) :=
    hsafe (_, _) (List.mem_append_right _ List.mem_cons_self)
  have hafter : ∀ first, first <+: after →
      ∀ stage ∈ Run.stages perform made.state first, stage.1.Safe stage.2 := by
    intro first hfirst stage hmem
    obtain ⟨rest, rfl⟩ := hfirst
    refine hsafe stage (List.mem_append_right _ (List.mem_cons_of_mem _ ?_))
    rw [Run.stages_append]
    exact List.mem_append_left _ hmem
  obtain ⟨handle, hissued, hget, hfollows⟩ :=
    follows_made hstart ((ties_reached settings ties before).symm ▸ hmade)
  refine ⟨handle, hissued, ?_, ?_⟩
  · intro first hfirst reached acts alone
    obtain ⟨hseen, hfinal⟩ := follows_run (hafter first hfirst) hfollows
    refine ⟨hseen, ?_, ?_⟩
    · intro hexists
      obtain ⟨current, hcurrent⟩ := exists_context? hexists
      rw [hcurrent, hfinal.context current hcurrent]
    · show _ ↔ ∀ act ∈ (own handle made.state first).map (·.2), act.ends = false
      rw [isLive_run (hafter first hfirst) hget, List.forall_mem_map]
  · intro stage hmem hne
    obtain ⟨first, rest, hsplit, hstage⟩ := Run.exists_of_mem_stages hmem
    have hfirst : first <+: after := ⟨stage.2 :: rest, hsplit.symm⟩
    have hknown := (follows_run (hafter first hfirst) hfollows).2.known
    rw [← hstage] at hknown
    have hstep := hafter after List.prefix_rfl stage hmem
    refine ⟨context?_of_ne hstep hknown hne, ?_⟩
    unfold Session.isLive HandleTable.contains
    rw [get_of_ne hstep hknown hne]

/-- A context is borrowed while another one crashes, is destroyed, loses its slot to a third
one and is asked for by its old handle; then its own handle is destroyed from inside. -/
theorem contexts_isolated_borrowed :
    let crashing : Backend := { name := "crashing", answer := fun _ _ => .crashed "out of memory" }
    let env : Environment := fun _ => some "/"
    let before : List (Act Unit) := [.call (.createWith 5 {} crashing)]
    let after : List (Act Unit) :=
      [.borrow 2, .call (.compileIn 1 env "a" "k"), .call (.destroy 1 5), .call (.create 7),
        .call (.compileIn 1 env "a" "k"),
        .work 2 fun _ context => (context.compile env "a" "k").map fun _ => (),
        .call (.destroy 2 0), .giveBack]
    let made := (Run.final perform (fresh .empty .oldest) before).perform
      (.call (.create 0) : Act Unit)
    let acts := (own 2 made.state after).map (·.2)
    let solo : Solo := { settings := .empty, context := .create 0 {} .disabled .oldest }
    (own 2 made.state after).map (fun stage => (stage.1.perform stage.2).observed) =
        (Run.turns Solo.perform solo acts).map (·.step.observed) ∧
      acts.length = 4 ∧ (Run.final perform made.state after).session.isLive 2 = false := by
  intro crashing env before after made acts solo
  have hroom : ∀ first, first <+: before ++ .call (.create 0) :: after →
      (Run.final perform (fresh .empty .oldest) first).session.contexts.size < 0xffffffff := by
    intro first hfirst
    have hall : ∀ first ∈ (before ++ .call (.create 0) :: after).inits,
        (Run.final perform (fresh .empty .oldest) first).session.contexts.size < 0xffffffff := by
      decide +kernel
    exact hall first ((List.mem_inits _ _).mpr hfirst)
  have hworn : ∀ index,
      endings index (fresh .empty .oldest) (before ++ .call (.create 0) :: after) < 0x100000000 := by
    intro index
    have hle : endings index (fresh .empty .oldest) (before ++ .call (.create 0) :: after) ≤ _ :=
      List.countP_le_length
    rw [Run.length_stages] at hle
    exact Nat.lt_of_le_of_lt hle (by decide)
  obtain ⟨handle, hissued, hruns, _⟩ := contexts_isolated .empty .oldest before after
    (rfl : Session.Command.made? .oldest (.create 0) = some solo.context) hroom hworn
  have hhandle : (match made.result with
      | .replied (.issued issued) => issued
      | _ => Handle.null) = 2 := by
    decide +kernel
  rw [show made.result = _ from hissued] at hhandle
  subst hhandle
  exact ⟨(hruns after List.prefix_rfl).1, by decide +kernel, by decide +kernel⟩

end Thread
end KernelJit
