/-
What the acts of a thread do to its session.

One act does one of five things (`moves_perform`): nothing, or a command, or the begin of a
borrowing, or some work on a borrowed context, or the end of the last borrowing.  With it the
table of contexts changes as tables do (`change_perform`).  In a run with room for all
contexts that wears no slot out, every act is safe: the table is sound, the handles of the
borrowed contexts are known to it, and the age of a slot is the number of its handles that
were ended.
-/
import KernelJit.Proofs.Handle.Change
import KernelJit.Proofs.Session.Effect
import KernelJit.Session.Thread
import Mathlib.Data.List.Induction
import Mathlib.Data.List.Infix

namespace KernelJit

/-- Whether an act ends the handle that it reaches. -/
def Act.ends {ρ : Type} : Act ρ → Bool
  | .call command => command.ends
  | .borrow _ | .work .. | .giveBack => false

/-- The settings after an act. -/
def Act.settings {ρ : Type} (settings : Settings) : Act ρ → Settings
  | .call command => command.settings settings
  | .borrow _ | .work .. | .giveBack => settings

namespace Thread

variable {ρ : Type} {thread : Thread} {handle other : Handle} {context : Context}

/-- The handle whose context an act reaches. -/
def target? (thread : Thread) : Act ρ → Option Handle
  | .call command => command.handle?.filter fun handle =>
    thread.session.isLive handle && !thread.blocks command
  | .borrow handle =>
    if thread.session.isLive handle && !thread.holds handle then some handle else none
  | .work handle _ => if thread.holds handle then some handle else none
  | .giveBack => thread.borrowed.head?.map (·.1)

/-- The handle that an act ends. -/
def ended? (thread : Thread) (act : Act ρ) : Option Handle :=
  if act.ends then thread.target? act else none

/-! ## One act -/

theorem perform_call_of_blocks {command : Session.Command} (h : thread.blocks command = true) :
    thread.perform (.call command : Act ρ) = .unchanged thread .blocked :=
  if_pos h

theorem perform_call_of_not_blocks {command : Session.Command} (h : thread.blocks command = false) :
    thread.perform (.call command : Act ρ) =
      { result := .replied (thread.session.perform command).result
        state := { thread with session := (thread.session.perform command).state }
        trace := (thread.session.perform command).trace } :=
  if_neg (Bool.not_eq_true _ ▸ h)

theorem perform_borrow_of_error {failure : Failure}
    (hget : thread.session.contexts.get handle = .error failure) :
    thread.perform (.borrow handle : Act ρ) = .unchanged thread (.lent (.error failure)) := by
  simp only [perform, hget]

theorem perform_borrow_of_holds (hget : thread.session.contexts.get handle = .ok context)
    (hholds : thread.holds handle = true) :
    thread.perform (.borrow handle : Act ρ) = .unchanged thread .blocked := by
  simp only [perform, hget, hholds, if_true]

theorem perform_borrow_of_ok (hget : thread.session.contexts.get handle = .ok context)
    (hholds : thread.holds handle = false) :
    thread.perform (.borrow handle : Act ρ) =
      .unchanged (thread.borrow handle context) (.lent (.ok ())) := by
  simp only [perform, hget, hholds, Bool.false_eq_true, if_false]

theorem perform_work_of_none (h : thread.borrowed.lookup handle = none)
    (task : Environment → Context → Step Context ρ) :
    thread.perform (.work handle task) = .unchanged thread .blocked := by
  simp only [perform, h]

theorem perform_work_of_some (h : thread.borrowed.lookup handle = some context)
    (task : Environment → Context → Step Context ρ) :
    thread.perform (.work handle task) =
      { result := .worked (task thread.session.settings.environment context).result
        state := thread.rewrite handle (task thread.session.settings.environment context).state
        trace := (task thread.session.settings.environment context).trace } := by
  simp only [perform, h]

theorem perform_giveBack_of_nil (h : thread.borrowed = []) :
    thread.perform (.giveBack : Act ρ) = .unchanged thread .blocked := by
  simp only [perform, h]

theorem perform_giveBack_of_error {borrowed : List (Handle × Context)} {failure : Failure}
    (h : thread.borrowed = (handle, context) :: borrowed)
    (hget : thread.session.contexts.get handle = .error failure) :
    thread.perform (.giveBack : Act ρ) =
      { result := .returned
        state :=
          { session := { thread.session with lent := borrowed.map (·.1) }
            borrowed }
        trace := [context.released] } := by
  simp only [perform, h, Session.giveBack_of_error hget]

theorem perform_giveBack_of_ok {borrowed : List (Handle × Context)} {stale : Context}
    (h : thread.borrowed = (handle, context) :: borrowed)
    (hget : thread.session.contexts.get handle = .ok stale) :
    thread.perform (.giveBack : Act ρ) =
      { result := .returned
        state :=
          { session := { thread.session with
              contexts := thread.session.contexts.replace handle context
              lent := borrowed.map (·.1) }
            borrowed }
        trace := [] } := by
  simp only [perform, h, Session.giveBack_of_ok hget]

/-! ## What an act reaches -/

theorem target?_call_eq_some_iff {command : Session.Command} :
    thread.target? (.call command : Act ρ) = some handle ↔ command.handle? = some handle ∧
      thread.session.isLive handle = true ∧ thread.blocks command = false := by
  show command.handle?.filter _ = _ ↔ _
  rw [Option.filter_eq_some_iff, Bool.and_eq_true, Bool.not_eq_true']

theorem target?_borrow_eq_some_iff : thread.target? (.borrow other : Act ρ) = some handle ↔
    other = handle ∧ thread.session.isLive handle = true ∧ thread.holds handle = false := by
  show (if thread.session.isLive other && !thread.holds other then some other else none) = _ ↔ _
  rw [Option.ite_none_right_eq_some, Option.some.injEq, Bool.and_eq_true, Bool.not_eq_true']
  constructor
  · intro h
    obtain ⟨hfree, rfl⟩ := h
    exact ⟨rfl, hfree⟩
  · intro h
    obtain ⟨rfl, hfree⟩ := h
    exact ⟨hfree, rfl⟩

theorem target?_work_eq_some_iff {task : Environment → Context → Step Context ρ} :
    thread.target? (.work other task) = some handle ↔
      other = handle ∧ thread.holds handle = true := by
  show (if thread.holds other then some other else none) = _ ↔ _
  rw [Option.ite_none_right_eq_some, Option.some.injEq]
  constructor
  · intro h
    obtain ⟨hholds, rfl⟩ := h
    exact ⟨rfl, hholds⟩
  · intro h
    obtain ⟨rfl, hholds⟩ := h
    exact ⟨hholds, rfl⟩

theorem target?_giveBack_eq_some_iff : thread.target? (.giveBack : Act ρ) = some handle ↔
    ∃ context rest, thread.borrowed = (handle, context) :: rest := by
  show thread.borrowed.head?.map _ = _ ↔ _
  cases thread.borrowed with
  | nil => simp
  | cons entry rest =>
    constructor
    · intro h
      cases h
      exact ⟨entry.2, rest, rfl⟩
    · intro h
      obtain ⟨context, _, hentry⟩ := h
      rw [(List.cons.inj hentry).1]
      rfl

/-! ## What an act changes -/

theorem ended?_call_of_not_blocks {command : Session.Command}
    (hblocks : thread.blocks command = false) :
    thread.ended? (.call command : Act ρ) = thread.session.ended? command := by
  show (if command.ends then command.handle?.filter _ else none) =
    if command.ends then command.handle?.filter _ else none
  simp only [hblocks, Bool.not_false, Bool.and_true]

theorem ended?_call_of_blocks {command : Session.Command} (hblocks : thread.blocks command = true) :
    thread.ended? (.call command : Act ρ) = none := by
  show (if command.ends then command.handle?.filter _ else none) = none
  simp [hblocks]

/-- What an act can make of a thread. -/
inductive Moves (thread : Thread) : Act ρ → Thread → Prop where
  | stays {act : Act ρ} (hended : thread.ended? act = none)
      (hsettings : ∀ settings, act.settings settings = settings) : Moves thread act thread
  | calls {command : Session.Command} {contexts : HandleTable Context}
      (hblocks : thread.blocks command = false)
      (heffect : thread.session.Effect command (thread.session.ended? command) contexts) :
      Moves thread (.call command)
        { thread with session := { thread.session with
            contexts, settings := command.settings thread.session.settings } }
  | borrows {handle : Handle} {context : Context}
      (hget : thread.session.contexts.get handle = .ok context)
      (hholds : thread.holds handle = false) :
      Moves thread (.borrow handle) (thread.borrow handle context)
  | works {handle : Handle} {context : Context} {task : Environment → Context → Step Context ρ}
      (hlookup : thread.borrowed.lookup handle = some context) (current : Context) :
      Moves thread (.work handle task) (thread.rewrite handle current)
  | givesBack {handle : Handle} {context : Context} {borrowed : List (Handle × Context)}
      {contexts : HandleTable Context}
      (hborrowed : thread.borrowed = (handle, context) :: borrowed)
      (hcontexts : contexts = thread.session.contexts ∨
        contexts = thread.session.contexts.replace handle context) :
      Moves thread .giveBack
        { session := { thread.session with contexts, lent := borrowed.map (·.1) }, borrowed }

theorem settings_of_blocks {command : Session.Command} (hblocks : thread.blocks command = true)
    (settings : Settings) : command.settings settings = settings := by
  cases command with
  | setVariable var value => exact absurd hblocks Bool.false_ne_true
  | _ => rfl

theorem moves_perform (thread : Thread) (act : Act ρ) :
    thread.Moves act (thread.perform act).state := by
  cases act with
  | call command =>
    cases hblocks : thread.blocks command with
    | true =>
      rw [perform_call_of_blocks hblocks]
      exact .stays (ended?_call_of_blocks hblocks) (settings_of_blocks hblocks)
    | false =>
      obtain ⟨contexts, hstate, heffect⟩ :=
        Session.exists_effect_perform thread.session command
      rw [perform_call_of_not_blocks hblocks, hstate]
      exact .calls hblocks heffect
  | borrow handle =>
    cases hget : thread.session.contexts.get handle with
    | error failure =>
      rw [perform_borrow_of_error hget]
      exact .stays rfl fun _ => rfl
    | ok context =>
      cases hholds : thread.holds handle with
      | true =>
        rw [perform_borrow_of_holds hget hholds]
        exact .stays rfl fun _ => rfl
      | false =>
        rw [perform_borrow_of_ok hget hholds]
        exact .borrows hget hholds
  | work handle task =>
    cases hlookup : thread.borrowed.lookup handle with
    | none =>
      rw [perform_work_of_none hlookup]
      exact .stays rfl fun _ => rfl
    | some context =>
      rw [perform_work_of_some hlookup]
      exact .works hlookup _
  | giveBack =>
    cases hborrowed : thread.borrowed with
    | nil =>
      rw [perform_giveBack_of_nil hborrowed]
      exact .stays rfl fun _ => rfl
    | cons entry borrowed =>
      cases hget : thread.session.contexts.get entry.1 with
      | error failure =>
        rw [perform_giveBack_of_error hborrowed hget]
        exact .givesBack hborrowed (Or.inl rfl)
      | ok stale =>
        rw [perform_giveBack_of_ok hborrowed hget]
        exact .givesBack hborrowed (Or.inr rfl)

theorem change_perform (thread : Thread) (act : Act ρ) :
    thread.session.contexts.Change (thread.target? act) (thread.ended? act)
      (thread.perform act).state.session.contexts := by
  have hmoves := moves_perform thread act
  -- The state after the act must be a variable for the cases to name it.
  generalize (thread.perform act).state = after at hmoves
  cases hmoves with
  | stays hended =>
    rw [hended]
    exact .same
  | @calls command contexts hblocks heffect =>
    rw [ended?_call_of_not_blocks hblocks]
    show HandleTable.Change _ _ _ contexts
    generalize thread.session.ended? command = ended at heffect
    cases heffect with
    | same => exact .same
    | made => exact .insert _
    | called call hhandle hget =>
      exact .replace (target?_call_eq_some_iff.mpr
        ⟨hhandle, Session.isLive_of_ok hget, hblocks⟩) _
    | ended hhandle hparts hslot =>
      have hget := HandleTable.get_eq_ok_iff.mpr ⟨_, _, hparts, hslot⟩
      exact .without (target?_call_eq_some_iff.mpr
        ⟨hhandle, Session.isLive_of_ok hget, hblocks⟩) hparts hslot
  | borrows => exact .same
  | works => exact .same
  | givesBack hborrowed hcontexts =>
    rcases hcontexts with rfl | rfl
    · exact .same
    · exact .replace (target?_giveBack_eq_some_iff.mpr ⟨_, _, hborrowed⟩) _

theorem frame_perform (thread : Thread) (act : Act ρ) :
    (thread.perform act).state.session.settings = act.settings thread.session.settings ∧
      (thread.perform act).state.session.ties = thread.session.ties := by
  have hmoves := moves_perform thread act
  generalize (thread.perform act).state = after at hmoves
  cases hmoves with
  | stays _ hsettings => exact ⟨(hsettings _).symm, rfl⟩
  | _ => exact ⟨rfl, rfl⟩

/-! ## The borrowed contexts -/

/-- The handles whose contexts are borrowed. -/
def keys (thread : Thread) : List Handle :=
  thread.borrowed.map (·.1)

theorem holds_eq_true_iff : thread.holds handle = true ↔ handle ∈ thread.keys := by
  unfold holds keys
  rw [List.lookup_isSome_iff, List.mem_map]
  exact exists_congr fun entry => and_congr_right fun _ => beq_iff_eq.trans eq_comm

theorem keys_rewrite (thread : Thread) (handle : Handle) (context : Context) :
    (thread.rewrite handle context).keys = thread.keys := by
  unfold keys rewrite
  rw [List.map_map]
  apply List.map_congr_left
  intro entry _
  show (if entry.1 = handle then (handle, context) else entry).1 = entry.1
  by_cases hsame : entry.1 = handle
  · rw [if_pos hsame, hsame]
  · rw [if_neg hsame]

/-- An act leaves the borrowed contexts with their handles, or borrows one more that a live
handle names, or ends the last borrowing. -/
theorem keys_perform (thread : Thread) (act : Act ρ) :
    ((thread.perform act).state.keys = thread.keys ∧
      (thread.perform act).state.session.lent = thread.session.lent) ∨
    (∃ handle context, thread.session.contexts.get handle = .ok context ∧ handle ∉ thread.keys ∧
      (thread.perform act).state.keys = handle :: thread.keys ∧
      (thread.perform act).state.session.lent = handle :: thread.session.lent) ∨
    ∃ handle keys, thread.keys = handle :: keys ∧ (thread.perform act).state.keys = keys ∧
      (thread.perform act).state.session.lent = keys := by
  have hmoves := moves_perform thread act
  generalize (thread.perform act).state = after at hmoves
  cases hmoves with
  | stays => exact Or.inl ⟨rfl, rfl⟩
  | calls => exact Or.inl ⟨rfl, rfl⟩
  | @borrows handle context hget hholds =>
    refine Or.inr (Or.inl ⟨handle, context, hget, ?_, rfl, rfl⟩)
    rw [← holds_eq_true_iff, hholds]
    exact Bool.false_ne_true
  | works => exact Or.inl ⟨keys_rewrite thread _ _, rfl⟩
  | @givesBack handle context borrowed _ hborrowed =>
    have hkeys : thread.keys = handle :: borrowed.map (·.1) := congrArg _ hborrowed
    exact Or.inr (Or.inr ⟨handle, _, hkeys, rfl, rfl⟩)

/-! ## Borrowers -/

/-- A borrower that does acts, and answers with what they answer. -/
def borrower (thread : Thread) (handle : Handle) (acts : List (Act ρ))
    (lent : Session × Context) : Step (Session × Context) (List (Answer ρ)) :=
  let start : Thread := { session := lent.1, borrowed := (handle, lent.2) :: thread.borrowed }
  let reached := Run.final perform start acts
  { result := (Run.turns perform start acts).map (·.step.result)
    state := (reached.session, (reached.borrowed.lookup handle).getD lent.2)
    trace := (Run.turns perform start acts).flatMap (·.step.trace) }

/-- To lend a context to a borrower is to borrow it, to do the acts of the borrower, and to
give back what is borrowed then. -/
theorem withContext_borrower (hlent : thread.session.lent = thread.keys)
    (hget : thread.session.contexts.get handle = .ok context) (hholds : thread.holds handle = false)
    {acts : List (Act ρ)} {after : Context}
    (hreached : (Run.final perform (thread.borrow handle context) acts).borrowed =
      (handle, after) :: thread.borrowed) :
    let step := thread.session.withContext handle (thread.borrower handle acts)
    let bracket := .borrow handle :: (acts ++ [.giveBack])
    Run.final perform thread bracket = { session := step.state, borrowed := thread.borrowed } ∧
      (Run.turns perform thread bracket).flatMap (·.step.trace) = step.trace := by
  intro step bracket
  have hborrower : thread.borrower handle acts (thread.session.lending handle, context) =
      { result := (Run.turns perform (thread.borrow handle context) acts).map (·.step.result)
        state := ((Run.final perform (thread.borrow handle context) acts).session, after)
        trace := (Run.turns perform (thread.borrow handle context) acts).flatMap
          (·.step.trace) } := by
    show Step.mk _ (_, ((Run.final perform (thread.borrow handle context) acts).borrowed.lookup
      handle).getD context) _ = _
    rw [hreached, List.lookup_cons, beq_self_eq_true]
    rfl
  have hfinal : Run.final perform thread bracket =
      ((Run.final perform (thread.borrow handle context) acts).perform
        (.giveBack : Act ρ)).state := by
    show Run.final perform (thread.perform (.borrow handle : Act ρ)).state _ = _
    rw [perform_borrow_of_ok hget hholds, Run.final_append]
    rfl
  have htrace : (Run.turns perform thread bracket).flatMap (·.step.trace) =
      (Run.turns perform (thread.borrow handle context) acts).flatMap (·.step.trace) ++
        ((Run.final perform (thread.borrow handle context) acts).perform
          (.giveBack : Act ρ)).trace := by
    show (thread.perform (.borrow handle : Act ρ)).trace ++
      (Run.turns perform (thread.perform (.borrow handle : Act ρ)).state _).flatMap _ = _
    rw [perform_borrow_of_ok hget hholds, Run.turns_append, List.flatMap_append]
    show [] ++ (_ ++ (_ ++ [])) = _
    rw [List.nil_append, List.append_nil]
    rfl
  rw [hfinal, htrace]
  have hkeys : thread.borrowed.map (·.1) = thread.session.lent := hlent.symm
  cases hback : (Run.final perform (thread.borrow handle context) acts).session.contexts.get
      handle with
  | error failure =>
    have hstep : step = _ :=
      Session.withContext_of_ok hget _ hborrower (Session.giveBack_of_error hback _ _)
    rw [perform_giveBack_of_error hreached hback, hstep, hkeys]
    exact ⟨rfl, rfl⟩
  | ok stale =>
    have hstep : step = _ :=
      Session.withContext_of_ok hget _ hborrower (Session.giveBack_of_ok hback _ _)
    rw [perform_giveBack_of_ok hreached hback, hstep, hkeys]
    exact ⟨rfl, rfl⟩

/-! ## Runs -/

/-- The table is sound, no context is borrowed twice at the same time, and the handle of a
borrowed context has been issued. -/
structure Sound (thread : Thread) : Prop where
  table : thread.session.contexts.Sound
  lent : thread.session.lent = thread.keys
  nodup : thread.keys.Nodup
  known : ∀ handle ∈ thread.keys, thread.session.contexts.Known handle

/-- A thread that does an act in a sound state, with room for a new context and without
wearing a slot out. -/
structure Safe (thread : Thread) (act : Act ρ) : Prop where
  sound : thread.Sound
  room : (thread.perform act).state.session.contexts.size < 0xffffffff
  worn : ∀ index, HandleTable.slotOf (thread.ended? act) = some index →
    thread.session.contexts.age index + 1 < 0x100000000

variable {act : Act ρ}

theorem Safe.known (h : thread.Safe act) (hknown : thread.session.contexts.Known handle) :
    (thread.perform act).state.session.contexts.Known handle :=
  (change_perform thread act).known h.sound.table h.worn hknown

theorem Safe.age (h : thread.Safe act) (index : Nat) :
    (thread.perform act).state.session.contexts.age index =
      thread.session.contexts.age index +
        if HandleTable.slotOf (thread.ended? act) = some index then 1 else 0 :=
  (change_perform thread act).age h.sound.table (h.worn index)

theorem Safe.perform (h : thread.Safe act) : (thread.perform act).state.Sound := by
  have htable := (change_perform thread act).sound h.sound.table h.room
  obtain ⟨hkeys, hlent⟩ | ⟨handle, context, hget, hfree, hkeys, hlent⟩ |
    ⟨handle, keys, hold, hkeys, hlent⟩ := keys_perform thread act
  · refine ⟨htable, ?_, ?_, ?_⟩
    · rw [hkeys, hlent]
      exact h.sound.lent
    · rw [hkeys]
      exact h.sound.nodup
    · intro handle hmem
      rw [hkeys] at hmem
      exact h.known (h.sound.known handle hmem)
  · refine ⟨htable, ?_, ?_, ?_⟩
    · rw [hkeys, hlent, h.sound.lent]
    · rw [hkeys]
      exact List.nodup_cons.mpr ⟨hfree, h.sound.nodup⟩
    · intro other hmem
      rw [hkeys] at hmem
      rcases List.mem_cons.mp hmem with rfl | hmem
      · exact h.known (Or.inl ⟨context, hget⟩)
      · exact h.known (h.sound.known other hmem)
  · have hnodup := h.sound.nodup
    rw [hold] at hnodup
    refine ⟨htable, ?_, ?_, ?_⟩
    · rw [hkeys, hlent]
    · rw [hkeys]
      exact (List.nodup_cons.mp hnodup).2
    · intro other hmem
      rw [hkeys] at hmem
      apply h.known (h.sound.known other _)
      rw [hold]
      exact List.mem_cons_of_mem _ hmem

/-- A thread at the start of a process. -/
def fresh (settings : Settings) (ties : TieBreak) : Thread :=
  { session := { settings, ties } }

theorem sound_fresh (settings : Settings) (ties : TieBreak) : (fresh settings ties).Sound where
  table := HandleTable.sound_empty
  lent := rfl
  nodup := List.nodup_nil
  known handle hmem := by cases hmem

/-- How often a handle of a slot is ended in a run. -/
def endings (index : Nat) (start : Thread) (acts : List (Act ρ)) : Nat :=
  (Run.stages perform start acts).countP fun stage =>
    HandleTable.slotOf (stage.1.ended? stage.2) = some index

theorem endings_concat (index : Nat) (start : Thread) (acts : List (Act ρ)) (act : Act ρ) :
    endings index start (acts ++ [act]) = endings index start acts +
      if HandleTable.slotOf ((Run.final perform start acts).ended? act) = some index
        then 1 else 0 := by
  unfold endings
  rw [Run.stages_append, List.countP_append]
  show _ + List.countP _ [(Run.final perform start acts, act)] = _
  rw [List.countP_singleton]
  simp only [decide_eq_true_eq]

theorem endings_le_append (index : Nat) (start : Thread) (a b : List (Act ρ)) :
    endings index start a ≤ endings index start (a ++ b) := by
  unfold endings
  rw [Run.stages_append, List.countP_append]
  exact Nat.le_add_right _ _

variable {settings : Settings} {ties : TieBreak} {acts : List (Act ρ)}

/-- In a run with room for all contexts that wears no slot out, the table is sound and knows
how often handles of its slots were ended. -/
theorem sound_reached
    (hroom : ∀ first, first <+: acts →
      (Run.final perform (fresh settings ties) first).session.contexts.size < 0xffffffff)
    (hworn : ∀ index, endings index (fresh settings ties) acts < 0x100000000) :
    (Run.final perform (fresh settings ties) acts).Sound ∧
      ∀ index, (Run.final perform (fresh settings ties) acts).session.contexts.age index =
        endings index (fresh settings ties) acts := by
  -- The run grows at its end, so that what is said of all its acts holds before the last.
  induction acts using List.reverseRecOn with
  | nil => exact ⟨sound_fresh settings ties, fun _ => rfl⟩
  | append_singleton acts act ih =>
    have hlast : Run.final perform (fresh settings ties) (acts ++ [act]) =
        ((Run.final perform (fresh settings ties) acts).perform act).state :=
      Run.final_append _ _ _ _
    have hfull := hroom _ List.prefix_rfl
    rw [hlast] at hfull ⊢
    obtain ⟨hsound, hage⟩ := ih
      (fun first hstart => hroom first (hstart.trans (List.prefix_append _ _)))
      (fun index => Nat.lt_of_le_of_lt (endings_le_append index _ acts [act]) (hworn index))
    have hsafe : (Run.final perform (fresh settings ties) acts).Safe act := by
      refine ⟨hsound, hfull, ?_⟩
      intro index hended
      have hcount := hworn index
      rw [endings_concat, if_pos hended] at hcount
      rw [hage]
      exact hcount
    refine ⟨hsafe.perform, ?_⟩
    intro index
    rw [hsafe.age, hage, endings_concat]

theorem safe_of_mem_stages
    (hroom : ∀ first, first <+: acts →
      (Run.final perform (fresh settings ties) first).session.contexts.size < 0xffffffff)
    (hworn : ∀ index, endings index (fresh settings ties) acts < 0x100000000)
    {stage : Thread × Act ρ} (h : stage ∈ Run.stages perform (fresh settings ties) acts) :
    stage.1.Safe stage.2 := by
  obtain ⟨before, after, rfl, hstate⟩ := Run.exists_of_mem_stages h
  have hsplit : before ++ stage.2 :: after = (before ++ [stage.2]) ++ after := by
    rw [List.append_assoc, List.singleton_append]
  obtain ⟨hsound, hage⟩ := @sound_reached ρ settings ties before
    (fun first hstart => hroom first (hstart.trans (List.prefix_append _ _)))
    (fun index => Nat.lt_of_le_of_lt (endings_le_append index _ before _) (hworn index))
  rw [← hstate] at hsound hage
  refine ⟨hsound, ?_, ?_⟩
  · have hroom := hroom (before ++ [stage.2]) ⟨after, hsplit.symm⟩
    rw [Run.final_append, ← hstate] at hroom
    exact hroom
  · intro index hended
    have hle := endings_le_append index (fresh settings ties) (before ++ [stage.2]) after
    have hcount := hworn index
    rw [hsplit] at hcount
    rw [endings_concat, ← hstate, if_pos hended] at hle
    rw [hage]
    omega

theorem safe_stages_of_append {first : List (Act ρ)} (hfirst : first <+: acts)
    (hsafe : ∀ stage ∈ Run.stages perform thread acts, stage.1.Safe stage.2) :
    ∀ stage ∈ Run.stages perform thread first, stage.1.Safe stage.2 := by
  obtain ⟨rest, rfl⟩ := hfirst
  intro stage hmem
  apply hsafe
  rw [Run.stages_append]
  exact List.mem_append_left _ hmem

theorem sound_of_append {first : List (Act ρ)}
    (hroom : ∀ first, first <+: acts →
      (Run.final perform (fresh settings ties) first).session.contexts.size < 0xffffffff)
    (hworn : ∀ index, endings index (fresh settings ties) acts < 0x100000000)
    (hfirst : first <+: acts) : (Run.final perform (fresh settings ties) first).Sound := by
  obtain ⟨rest, rfl⟩ := hfirst
  refine (sound_reached (fun more hmore => hroom more (hmore.trans (List.prefix_append _ _)))
    fun index => ?_).1
  exact Nat.lt_of_le_of_lt (endings_le_append index _ first rest) (hworn index)

/-! ## Short runs -/

theorem size_perform_le (thread : Thread) (act : Act ρ) :
    (thread.perform act).state.session.contexts.size ≤ thread.session.contexts.size + 1 := by
  have hchange := change_perform thread act
  generalize (thread.perform act).state.session.contexts = after at hchange
  generalize thread.ended? act = ended at hchange
  cases hchange with
  | same => exact Nat.le_succ _
  | insert object =>
    show (HandleTable.insert _ object).2.live ≤ _
    rw [HandleTable.insert]
    split <;> exact Nat.le_refl _
  | @replace own _ object =>
    show (HandleTable.replace _ own object).live ≤ _
    simp only [HandleTable.replace]
    split
    · exact Nat.le_succ _
    · split <;> exact Nat.le_succ _
  | without => exact (Nat.sub_le _ _).trans (Nat.le_succ _)

/-- A run makes no more contexts than it has acts. -/
theorem size_reached_le (settings : Settings) (ties : TieBreak) (acts : List (Act ρ)) :
    (Run.final perform (fresh settings ties) acts).session.contexts.size ≤ acts.length := by
  induction acts using List.reverseRecOn with
  | nil => exact Nat.le_refl 0
  | append_singleton acts act ih =>
    rw [Run.final_append, List.length_append]
    exact (size_perform_le _ act).trans (Nat.succ_le_succ ih)

/-- A short run has room for its contexts and wears no slot out. -/
theorem room_of_length (h : acts.length < 0xffffffff) :
    (∀ first, first <+: acts →
      (Run.final perform (fresh settings ties) first).session.contexts.size < 0xffffffff) ∧
    ∀ index, endings index (fresh settings ties) acts < 0x100000000 := by
  constructor
  · intro first hfirst
    have hsize := size_reached_le settings ties first
    have hlength := hfirst.length_le
    omega
  · intro index
    have hcount : endings index (fresh settings ties) acts ≤ _ := List.countP_le_length
    rw [Run.length_stages] at hcount
    omega

end Thread
end KernelJit
