/-
Which contexts there are, and which act gives one up.

A context is there while its handle is live or a borrower has it, and `present` lists the
handles of these contexts.  The list changes in two ways only.  A creation issues a handle
(`issued?`).  A context is given up when its handle is ended and nobody has borrowed it, or when
its borrower gives it back after its handle was ended (`released?`).  The law is
`present_perform`: what an act gives up and what is there afterwards is what was there before
and what the act has issued.

A handle is in the list once, since a sound table issues no handle that it has known
before, and nothing is borrowed twice at the same time.
-/
import KernelJit.Proofs.Handle.Live
import KernelJit.Proofs.Session.Every
import KernelJit.Proofs.Session.Isolation

namespace KernelJit

variable {ρ : Type}

namespace Session

variable {session : Session} {command : Command} {handle : Handle}

/-- After a command the live handles are those that it has not ended, and the one that it has
issued. -/
theorem isLive_perform (hsound : session.contexts.Sound) (command : Command) (handle : Handle) :
    (session.perform command).state.isLive handle = true ↔
      (session.isLive handle = true ∧ session.ended? command ≠ some handle) ∨
        (command.made? session.ties).map (fun context => (session.contexts.insert context).1) =
          some handle := by
  cases hmade : command.made? session.ties with
  | some context =>
    have hended : session.ended? command = none := by
      cases command with
      | create device => rfl
      | createWith device options backend => rfl
      | _ => cases hmade
    rw [(Thread.perform_made hmade).2, hended, Option.map_some, Option.some.injEq]
    show HandleTable.contains _ handle = true ↔ _
    by_cases hsame : handle = (session.contexts.insert context).1
    · subst hsame
      rw [HandleTable.contains_eq_true_iff]
      exact iff_of_true ⟨context, HandleTable.get_insert_self hsound context⟩ (Or.inr rfl)
    · rw [HandleTable.contains_eq_true_iff, HandleTable.get_insert_of_ne hsound context hsame,
        ← isLive_eq_true_iff]
      exact ⟨fun h => Or.inl ⟨h, nofun⟩, fun h => (h.resolve_right (Ne.symm hsame)).1⟩
  | none =>
    obtain ⟨contexts, hstate, heffect⟩ := session.exists_effect_perform command
    rw [hstate, Option.map_none]
    show HandleTable.contains contexts handle = true ↔ _
    rw [HandleTable.contains_eq_true_iff, isLive_eq_true_iff]
    generalize session.ended? command = ended at heffect
    cases heffect with
    | same => exact ⟨fun h => Or.inl ⟨h, nofun⟩, fun h => (h.resolve_right nofun).1⟩
    | made hsome => cases hmade.symm.trans hsome
    | @called own context call _ hget =>
      refine Iff.trans ?_ ⟨fun h => Or.inl ⟨h, nofun⟩, fun h => (h.resolve_right nofun).1⟩
      by_cases hsame : handle = own
      · subst hsame
        exact iff_of_true ⟨_, HandleTable.get_replace_self hget _⟩ ⟨context, hget⟩
      · rw [HandleTable.get_replace_of_ne hsame]
    | @ended own context index generation _ hparts hslot =>
      by_cases hsame : handle = own
      · subst hsame
        rw [HandleTable.get_without_self hparts hslot]
        exact iff_of_false nofun fun h => (h.resolve_right nofun).2 rfl
      · rw [HandleTable.get_without_of_ne hparts hslot hsame]
        exact ⟨fun h => Or.inl ⟨h, fun heq => hsame (Option.some.inj heq).symm⟩,
          fun h => (h.resolve_right nofun).1⟩

end Session

namespace Thread

variable {thread : Thread} {act : Act ρ} {handle : Handle} {context : Context}

/-- The handle that an act issues. -/
def issued? (thread : Thread) (act : Act ρ) : Option Handle :=
  (act.made? thread.session.ties).map fun context => (thread.session.contexts.insert context).1

/-- The context that an act gives up, with its handle: the one of a handle that is ended while
nobody has borrowed the context, as the command leaves it, or the one that is given back after
its handle was ended, as the borrower leaves it. -/
def released? (thread : Thread) : Act ρ → Option (Handle × Context)
  | .call command => (thread.ended? (.call command : Act ρ)).bind fun handle =>
    if thread.holds handle then none
    else (thread.session.view handle).toOption.map fun context =>
      (handle, (context.serve thread.session.settings.environment command).state)
  | .giveBack => thread.borrowed.head?.filter fun entry => !thread.session.isLive entry.1
  | .borrow _ | .work .. => none

/-- The handles of the contexts that are there: those that are live, and those that were ended
while their contexts are borrowed. -/
def present (thread : Thread) : List Handle :=
  thread.session.contexts.handles ++
    thread.keys.filter fun handle => !thread.session.isLive handle

theorem mem_present (h : thread.Sound) :
    handle ∈ thread.present ↔
      thread.session.isLive handle = true ∨ thread.holds handle = true := by
  rw [present, List.mem_append, List.mem_filter, HandleTable.mem_handles h.table,
    ← Session.isLive_eq_true_iff, holds_eq_true_iff]
  cases thread.session.isLive handle with
  | true => exact iff_of_true (Or.inl rfl) (Or.inl rfl)
  | false => simp

theorem nodup_present (h : thread.Sound) : thread.present.Nodup := by
  refine List.nodup_append.mpr ⟨HandleTable.nodup_handles h.table, h.nodup.filter _, ?_⟩
  intro live hlive dead hdead hsame
  subst hsame
  rw [HandleTable.mem_handles h.table, ← Session.isLive_eq_true_iff] at hlive
  have hnot := (List.mem_filter.mp hdead).2
  rw [hlive] at hnot
  cases hnot

/-- With nothing borrowed, the contexts that are there are those of the live handles. -/
theorem present_of_nil (h : thread.borrowed = []) :
    thread.present = thread.session.contexts.handles := by
  rw [present, keys, h]
  exact List.append_nil _

/-! ## What an act does to the handles -/

theorem isLive_perform (hsafe : thread.Safe act) (handle : Handle) :
    (thread.perform act).state.session.isLive handle = true ↔
      (thread.session.isLive handle = true ∧ thread.ended? act ≠ some handle) ∨
        thread.issued? act = some handle := by
  have hsame : (thread.session.isLive handle = true) ↔
      (thread.session.isLive handle = true ∧ (none : Option Handle) ≠ some handle) ∨
        (none : Option Handle) = some handle :=
    ⟨fun h => Or.inl ⟨h, nofun⟩, fun h => (h.resolve_right nofun).1⟩
  cases act with
  | call command =>
    cases hblocks : thread.blocks command with
    | true =>
      have hissued : thread.issued? (.call command : Act ρ) = none := by
        cases command <;> first | rfl | cases hblocks
      rw [perform_call_of_blocks hblocks, ended?_call_of_blocks hblocks, hissued]
      exact hsame
    | false =>
      rw [perform_call_of_not_blocks hblocks, ended?_call_of_not_blocks hblocks]
      exact Session.isLive_perform hsafe.sound.table command handle
  | borrow own =>
    cases hget : thread.session.contexts.get own with
    | error failure =>
      rw [perform_borrow_of_error hget]
      exact hsame
    | ok context =>
      cases hholds : thread.holds own with
      | true =>
        rw [perform_borrow_of_holds hget hholds]
        exact hsame
      | false =>
        rw [perform_borrow_of_ok hget hholds]
        exact hsame
  | work own task =>
    cases hlookup : thread.borrowed.lookup own with
    | none =>
      rw [perform_work_of_none hlookup]
      exact hsame
    | some context =>
      rw [perform_work_of_some hlookup]
      exact hsame
  | giveBack =>
    cases hborrowed : thread.borrowed with
    | nil =>
      rw [perform_giveBack_of_nil hborrowed]
      exact hsame
    | cons entry rest =>
      cases hget : thread.session.contexts.get entry.1 with
      | error failure =>
        rw [perform_giveBack_of_error hborrowed hget]
        exact hsame
      | ok stale =>
        rw [perform_giveBack_of_ok hborrowed hget]
        refine Iff.trans ?_ hsame
        show HandleTable.contains _ handle = true ↔ _
        rw [HandleTable.contains_eq_true_iff, Session.isLive_eq_true_iff]
        by_cases heq : handle = entry.1
        · rw [heq]
          exact iff_of_true ⟨_, HandleTable.get_replace_self hget _⟩ ⟨stale, hget⟩
        · rw [HandleTable.get_replace_of_ne heq]

theorem keys_call (thread : Thread) (command : Session.Command) :
    (thread.perform (.call command : Act ρ)).state.keys = thread.keys := by
  have hmoves := moves_perform thread (.call command : Act ρ)
  generalize (thread.perform (.call command : Act ρ)).state = after at hmoves
  cases hmoves <;> rfl

theorem keys_work (thread : Thread) (own : Handle)
    (task : Environment → Context → Step Context ρ) :
    (thread.perform (.work own task)).state.keys = thread.keys := by
  have hmoves := moves_perform thread (.work own task)
  generalize (thread.perform (.work own task)).state = after at hmoves
  cases hmoves with
  | stays => rfl
  | works => exact keys_rewrite thread _ _

/-! ## The law -/

/-- A handle is issued for a context that was not there, by an act that ends nothing. -/
theorem not_mem_present_of_issued (hsafe : thread.Safe act)
    (hissued : thread.issued? act = some handle) :
    handle ∉ thread.present ∧ thread.released? act = none := by
  obtain ⟨context, hmade, rfl⟩ := Option.map_eq_some_iff.mp hissued
  have hunknown := HandleTable.not_known_insert hsafe.sound.table context
  constructor
  · rw [mem_present hsafe.sound]
    rintro (hlive | hholds)
    · exact hunknown (Or.inl (Session.isLive_eq_true_iff.mp hlive))
    · exact hunknown (hsafe.sound.known _ (holds_eq_true_iff.mp hholds))
  · cases act with
    | call command =>
      cases command with
      | create device => rfl
      | createWith device options backend => rfl
      | _ => cases hmade
    | _ => cases hmade

theorem released?_call_eq_some_iff {command : Session.Command} :
    thread.released? (.call command : Act ρ) = some (handle, context) ↔
      thread.ended? (.call command : Act ρ) = some handle ∧ thread.holds handle = false ∧
        ∃ before, thread.session.contexts.get handle = .ok before ∧
          context = (before.serve thread.session.settings.environment command).state := by
  show Option.bind _ _ = _ ↔ _
  rw [Option.bind_eq_some_iff]
  constructor
  · rintro ⟨own, hended, hsome⟩
    cases hholds : thread.holds own with
    | true =>
      rw [hholds, if_pos rfl] at hsome
      cases hsome
    | false =>
      rw [hholds, if_neg Bool.false_ne_true, Option.map_eq_some_iff] at hsome
      obtain ⟨before, hview, hpair⟩ := hsome
      obtain ⟨rfl, rfl⟩ := Prod.mk.inj hpair
      refine ⟨hended, hholds, before, ?_, rfl⟩
      refine (context?_eq_some_iff hholds).mp ?_
      rw [context?, lookup_of_not_holds hholds]
      exact hview
  · rintro ⟨hended, hholds, before, hget, rfl⟩
    refine ⟨handle, hended, ?_⟩
    rw [hholds, if_neg Bool.false_ne_true, Session.view, hget]
    rfl

theorem released?_giveBack_eq_some_iff :
    thread.released? (.giveBack : Act ρ) = some (handle, context) ↔
      (∃ rest, thread.borrowed = (handle, context) :: rest) ∧
        thread.session.isLive handle = false := by
  show Option.filter _ thread.borrowed.head? = _ ↔ _
  rw [Option.filter_eq_some_iff, List.head?_eq_some_iff, Bool.not_eq_true']

/-- A handle whose context is given up was there, and is not there any more. -/
theorem present_of_released (hsafe : thread.Safe act)
    (hreleased : thread.released? act = some (handle, context)) :
    handle ∈ thread.present ∧ handle ∉ (thread.perform act).state.present := by
  rw [mem_present hsafe.sound, mem_present hsafe.perform, isLive_perform hsafe]
  have hissued : thread.issued? act ≠ some handle := by
    intro hissued
    rw [(not_mem_present_of_issued hsafe hissued).2] at hreleased
    cases hreleased
  cases act with
  | call command =>
    obtain ⟨hended, hholds, before, hget, _⟩ := released?_call_eq_some_iff.mp hreleased
    refine ⟨Or.inl (Session.isLive_of_ok hget), ?_⟩
    rw [holds_eq_true_iff, keys_call, ← holds_eq_true_iff, hholds]
    rintro ((⟨_, hnot⟩ | hsome) | hfalse)
    · exact hnot hended
    · exact hissued hsome
    · cases hfalse
  | giveBack =>
    obtain ⟨⟨rest, hborrowed⟩, hdead⟩ := released?_giveBack_eq_some_iff.mp hreleased
    have hkeys : thread.keys = handle :: rest.map (·.1) := congrArg _ hborrowed
    have hnodup := hsafe.sound.nodup
    rw [hkeys] at hnodup
    obtain ⟨failure, hget⟩ : ∃ failure, thread.session.contexts.get handle = .error failure := by
      cases hget : thread.session.contexts.get handle with
      | error failure => exact ⟨failure, rfl⟩
      | ok found => cases (Session.isLive_of_ok hget).symm.trans hdead
    refine ⟨Or.inr (holds_eq_true_iff.mpr (hkeys ▸ List.mem_cons_self)), ?_⟩
    rw [holds_eq_true_iff, hdead, perform_giveBack_of_error hborrowed hget]
    rintro ((⟨hfalse, _⟩ | hsome) | hmem)
    · cases hfalse
    · exact hissued hsome
    · exact (List.nodup_cons.mp hnodup).1 hmem
  | borrow own => cases hreleased
  | work own task => cases hreleased

/-- Whatever else an act does, it leaves a context there or not there. -/
theorem mem_present_perform_iff (hsafe : thread.Safe act)
    (hissued : thread.issued? act ≠ some handle)
    (hreleased : ∀ context, thread.released? act ≠ some (handle, context)) :
    handle ∈ (thread.perform act).state.present ↔ handle ∈ thread.present := by
  rw [mem_present hsafe.sound, mem_present hsafe.perform, isLive_perform hsafe,
    or_iff_left hissued]
  have hended : thread.ended? act = some handle → thread.holds handle = true := by
    intro hended
    cases act with
    | call command =>
      cases hholds : thread.holds handle with
      | true => rfl
      | false =>
        obtain ⟨_, hlive, _⟩ := target?_call_eq_some_iff.mp (ended?_eq_some_iff.mp hended).2
        obtain ⟨before, hget⟩ := Session.isLive_eq_true_iff.mp hlive
        exact absurd (released?_call_eq_some_iff.mpr ⟨hended, hholds, before, hget, rfl⟩)
          (hreleased _)
    | _ => cases hended
  -- Ending a handle matters only if its context is not borrowed.
  have hlive : (thread.session.isLive handle = true ∧ thread.ended? act ≠ some handle ∨
      thread.holds handle = true) ↔
        (thread.session.isLive handle = true ∨ thread.holds handle = true) := by
    by_cases heq : thread.ended? act = some handle
    · exact iff_of_true (Or.inr (hended heq)) (Or.inr (hended heq))
    · rw [and_iff_left heq]
  refine Iff.trans ?_ hlive
  cases act with
  | call command => rw [holds_eq_true_iff, keys_call, ← holds_eq_true_iff]
  | work own task => rw [holds_eq_true_iff, keys_work, ← holds_eq_true_iff]
  | borrow own =>
    cases hget : thread.session.contexts.get own with
    | error failure => rw [perform_borrow_of_error hget]; rfl
    | ok context =>
      cases hholds : thread.holds own with
      | true => rw [perform_borrow_of_holds hget hholds]; rfl
      | false =>
        rw [perform_borrow_of_ok hget hholds]
        show _ ∨ (thread.borrow own context).holds handle = true ↔ _
        by_cases hsame : handle = own
        · subst hsame
          have hhere : thread.session.isLive handle = true ∧
              thread.ended? (.borrow handle : Act ρ) ≠ some handle :=
            ⟨Session.isLive_of_ok hget, nofun⟩
          exact iff_of_true (Or.inl hhere) (Or.inl hhere)
        · rw [holds_eq_true_iff, holds_eq_true_iff]
          show _ ∨ handle ∈ own :: thread.keys ↔ _
          rw [List.mem_cons, or_iff_right hsame]
  | giveBack =>
    cases hborrowed : thread.borrowed with
    | nil => rw [perform_giveBack_of_nil hborrowed]; rfl
    | cons entry rest =>
      obtain ⟨own, context⟩ := entry
      have hkeys : thread.keys = own :: rest.map (·.1) := congrArg _ hborrowed
      have hafter : (thread.perform (.giveBack : Act ρ)).state.keys = rest.map (·.1) := by
        cases hget : thread.session.contexts.get own with
        | error failure => rw [perform_giveBack_of_error hborrowed hget]; rfl
        | ok stale => rw [perform_giveBack_of_ok hborrowed hget]; rfl
      rw [holds_eq_true_iff, holds_eq_true_iff, hafter, hkeys, List.mem_cons]
      by_cases hsame : handle = own
      · subst hsame
        cases hlive' : thread.session.isLive handle with
        | true => exact iff_of_true (Or.inl ⟨rfl, nofun⟩) (Or.inl ⟨rfl, nofun⟩)
        | false =>
          exact absurd (released?_giveBack_eq_some_iff.mpr ⟨⟨rest, hborrowed⟩, hlive'⟩)
            (hreleased context)
      · rw [or_iff_right hsame]

/-- What an act gives up and what is there after it is what was there before and what the act
has issued. -/
theorem present_perform (hsafe : thread.Safe act) :
    (((thread.released? act).map (·.1)).toList ++ (thread.perform act).state.present).Perm
      (thread.present ++ (thread.issued? act).toList) := by
  rw [List.perm_iff_count]
  intro handle
  rw [List.count_append, List.count_append, List.Nodup.count (nodup_present hsafe.perform),
    List.Nodup.count (nodup_present hsafe.sound)]
  by_cases hissued : thread.issued? act = some handle
  · obtain ⟨habsent, hnone⟩ := not_mem_present_of_issued hsafe hissued
    have hafter : handle ∈ (thread.perform act).state.present := by
      rw [mem_present hsafe.perform, isLive_perform hsafe]
      exact Or.inl (Or.inr hissued)
    rw [hnone, hissued, if_pos hafter, if_neg habsent]
    simp
  · have hcount : (thread.issued? act).toList.count handle = 0 := by
      rw [List.count_eq_zero, Option.mem_toList]
      exact hissued
    rw [hcount, Nat.add_zero]
    by_cases hreleased : ∃ context, thread.released? act = some (handle, context)
    · obtain ⟨context, hreleased⟩ := hreleased
      obtain ⟨hbefore, hafter⟩ := present_of_released hsafe hreleased
      rw [hreleased, if_pos hbefore, if_neg hafter]
      simp
    · have hsame := mem_present_perform_iff hsafe hissued (not_exists.mp hreleased)
      have hnone : ((thread.released? act).map (·.1)).toList.count handle = 0 := by
        rw [List.count_eq_zero, Option.mem_toList]
        intro hsome
        obtain ⟨entry, hentry, rfl⟩ := Option.map_eq_some_iff.mp hsome
        exact hreleased ⟨entry.2, hentry⟩
      rw [hnone, Nat.zero_add]
      simp only [hsame]

end Thread
end KernelJit
