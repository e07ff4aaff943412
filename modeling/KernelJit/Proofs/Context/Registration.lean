/-
What is registered in a context, in terms of the calls it has had.

The operator under a name is the one that the last successful call with that name
answered, and there is none if no call with that name has succeeded.  An operator
shows the source of its own call in its aggregation and reducer, and its program
carries the fingerprint of its own request.  The backend has no say in the
fingerprint: a program is tagged when it is stored (`Tagged`), and one that is found
was stored under the key that it is found by.
-/
import KernelJit.Proofs.Context.Call
import Mathlib.Data.List.Induction

namespace KernelJit

/-! ## The last of its kind -/

/-- `x` is the last element of a list that has the property `p`. -/
def IsLast {α : Type} (p : α → Prop) (list : List α) (x : α) : Prop :=
  ∃ before after, list = before ++ x :: after ∧ p x ∧ ∀ later ∈ after, ¬p later

theorem IsLast.holds {α : Type} {p : α → Prop} {list : List α} {x : α} (h : IsLast p list x) :
    p x := by
  obtain ⟨_, _, _, hx, _⟩ := h
  exact hx

theorem not_isLast_nil {α : Type} {p : α → Prop} {x : α} : ¬IsLast p [] x := by
  intro h
  obtain ⟨before, after, hnil, _⟩ := h
  exact absurd hnil.symm (List.append_ne_nil_of_right_ne_nil before (List.cons_ne_nil x after))

/-- Where a list that is longer by one element can be split. -/
theorem concat_eq_append_cons_iff {α : Type} {list before after : List α} {x y : α} :
    list ++ [y] = before ++ x :: after ↔
      (after = [] ∧ before = list ∧ x = y) ∨
        ∃ rest, after = rest ++ [y] ∧ list = before ++ x :: rest := by
  constructor
  · intro h
    rcases List.eq_nil_or_concat' after with rfl | ⟨rest, z, rfl⟩
    · obtain ⟨rfl, hlast⟩ := List.append_inj' h rfl
      exact Or.inl ⟨rfl, rfl, (List.head_eq_of_cons_eq hlast).symm⟩
    · rw [← List.cons_append, ← List.append_assoc] at h
      obtain ⟨hlist, hlast⟩ := List.append_inj' h rfl
      obtain rfl := List.head_eq_of_cons_eq hlast
      exact Or.inr ⟨rest, rfl, hlist⟩
  · rintro (⟨rfl, rfl, rfl⟩ | ⟨rest, rfl, rfl⟩)
    · rfl
    · rw [List.append_assoc, List.cons_append]

theorem isLast_concat {α : Type} {p : α → Prop} {list : List α} {y x : α} :
    IsLast p (list ++ [y]) x ↔ (p y ∧ x = y) ∨ (¬p y ∧ IsLast p list x) := by
  constructor
  · intro h
    obtain ⟨before, after, hsplit, hx, hlater⟩ := h
    obtain ⟨rfl, rfl, rfl⟩ | ⟨rest, rfl, hlist⟩ := concat_eq_append_cons_iff.mp hsplit
    · exact Or.inl ⟨hx, rfl⟩
    · obtain ⟨hrest, hy⟩ := List.forall_mem_append.mp hlater
      exact Or.inr ⟨hy y List.mem_cons_self, before, rest, hlist, hx, hrest⟩
  · intro h
    obtain ⟨hy, rfl⟩ | ⟨hy, before, after, hlist, hx, hlater⟩ := h
    · exact ⟨list, [], rfl, hy, List.forall_mem_nil _⟩
    · refine ⟨before, after ++ [y], concat_eq_append_cons_iff.mpr (Or.inr ⟨after, rfl, hlist⟩),
        hx, ?_⟩
      exact List.forall_mem_append.mpr ⟨hlater, List.forall_mem_singleton.mpr hy⟩

theorem exists_isLast_iff {α : Type} {p : α → Prop} {list : List α} :
    (∃ x, IsLast p list x) ↔ ∃ x ∈ list, p x := by
  constructor
  · intro h
    obtain ⟨x, before, after, rfl, hx, _⟩ := h
    exact ⟨x, List.mem_append_right _ List.mem_cons_self, hx⟩
  · induction list using List.reverseRecOn with
    | nil => exact fun ⟨_, hmem, _⟩ => absurd hmem List.not_mem_nil
    | append_singleton list y ih =>
      intro h
      obtain ⟨x, hmem, hx⟩ := h
      by_cases hy : p y
      · exact ⟨y, isLast_concat.mpr (Or.inl ⟨hy, rfl⟩)⟩
      · rcases List.mem_append.mp hmem with hold | hnew
        · obtain ⟨last, hlast⟩ := ih ⟨x, hold, hx⟩
          exact ⟨last, isLast_concat.mpr (Or.inr ⟨hy, hlast⟩)⟩
        · rw [List.mem_singleton.mp hnew] at hx
          exact absurd hx hy

/-! ## The registry -/

theorem Registry.mem_names_iff {registry : Registry} {name : String} :
    name ∈ registry.names ↔ (registry.find? name).isSome := by
  rw [find?, Option.isSome_map, List.find?_isSome, names, List.mem_map]
  constructor
  · intro h
    obtain ⟨entry, hmem, rfl⟩ := h
    exact ⟨entry, hmem, beq_self_eq_true entry.1⟩
  · intro h
    obtain ⟨entry, hmem, hname⟩ := h
    exact ⟨entry, hmem, eq_of_beq hname⟩

namespace Context

/-- A turn that registered an operator under a name. -/
def Registers (name : String) (turn : Turn Call Context (Outcome (Shared Operator))) : Prop :=
  turn.command.name = name ∧ ∃ operator, turn.step.result = .done operator

/-- One call changes what is registered under its own name, and only if it succeeds. -/
theorem operator?_call (context : Context) (call : Call) (name : String) :
    (call.name = name ∧ ∃ operator, (context.call call).result = .done operator ∧
      (context.call call).state.operator? name = some operator) ∨
    (¬(call.name = name ∧ ∃ operator, (context.call call).result = .done operator) ∧
      (context.call call).state.operator? name = context.operator? name) := by
  obtain ⟨request, program, _, _, hresult, hstate⟩ | ⟨hfail, hstate⟩ := call_cases context call
  · by_cases hname : call.name = name
    · refine Or.inl ⟨hname, _, hresult, ?_⟩
      rw [hstate, ← hname]
      exact Registry.find?_insert_self _ _ _
    · refine Or.inr ⟨fun h => hname h.1, ?_⟩
      rw [hstate]
      exact Registry.find?_insert_of_ne _ hname _
  · refine Or.inr ⟨fun ⟨_, operator, hdone⟩ => hfail operator hdone, ?_⟩
    rcases hstate with hsame | ⟨_, _, _, hsame⟩
    · rw [hsame]
    · rw [hsame]
      rfl

theorem operator?_reached {context : Context} (hempty : ∀ name, context.operator? name = none)
    (calls : List Call) (name : String) (operator : Shared Operator) :
    (context.reached calls).operator? name = some operator ↔
      ∃ turn, IsLast (Registers name) (context.history calls) turn ∧
        turn.step.result = .done operator := by
  -- The run grows at its end, where the new call is the last one if it succeeds.
  induction calls using List.reverseRecOn with
  | nil =>
    constructor
    · intro h
      exact absurd ((hempty name).symm.trans h) (Option.some_ne_none operator).symm
    · intro h
      obtain ⟨turn, hlast, _⟩ := h
      exact absurd hlast not_isLast_nil
  | append_singleton calls call ih =>
    have hreached : context.reached (calls ++ [call]) = ((context.reached calls).call call).state :=
      Run.final_append _ _ _ _
    have hhistory : context.history (calls ++ [call]) =
        context.history calls ++ [⟨call, (context.reached calls).call call⟩] :=
      Run.turns_append _ _ _ _
    rw [hreached, hhistory]
    obtain ⟨hname, answered, hdone, hfind⟩ | ⟨hnot, hfind⟩ :=
      operator?_call (context.reached calls) call name
    · rw [hfind]
      constructor
      · intro h
        refine ⟨_, isLast_concat.mpr (Or.inl ⟨⟨hname, answered, hdone⟩, rfl⟩), ?_⟩
        exact hdone.trans (congrArg Outcome.done (Option.some.inj h))
      · intro h
        obtain ⟨turn, hlast, hturn⟩ := h
        rcases isLast_concat.mp hlast with ⟨_, rfl⟩ | ⟨hnot, _⟩
        · exact congrArg some (Outcome.done.inj (hdone.symm.trans hturn))
        · exact absurd ⟨hname, answered, hdone⟩ hnot
    · rw [hfind, ih]
      constructor
      · intro h
        obtain ⟨turn, hlast, hturn⟩ := h
        exact ⟨turn, isLast_concat.mpr (Or.inr ⟨hnot, hlast⟩), hturn⟩
      · intro h
        obtain ⟨turn, hlast, hturn⟩ := h
        rcases isLast_concat.mp hlast with ⟨hregisters, _⟩ | ⟨_, hlast⟩
        · exact absurd hregisters hnot
        · exact ⟨turn, hlast, hturn⟩

/-! ## What an operator shows of its call -/

/-- Each cached program carries the key that it is cached under. -/
def Tagged (context : Context) : Prop :=
  ∀ entry ∈ context.cache.entries, entry.program.value.fingerprint = some entry.key

theorem tagged_asked {context : Context} (h : context.Tagged) (request : Request) :
    (context.asked request).Tagged :=
  Cache.forall_getOrCompile (fun _ hentry => hentry) h fun _ _ _ => rfl

theorem tagged_call {context : Context} (h : context.Tagged) (call : Call) :
    (context.call call).state.Tagged :=
  call_preserves h (tagged_asked h) (fun _ _ _ hcurrent => hcurrent) call

theorem operator_of_call_done {context : Context} (h : context.Tagged) {call : Call}
    {operator : Shared Operator} (hdone : (context.call call).result = .done operator) :
    ∃ request, call.prepare context.device context.options = .ok request ∧
      operator.value = call.operator operator.value.program ∧
      operator.value.program.value.fingerprint = some (Fingerprint.ofRequest request) := by
  obtain ⟨request, program, hprepare, hask, hresult, _⟩ | ⟨hfail, _⟩ := call_cases context call
  · obtain rfl := Outcome.done.inj (hresult.symm.trans hdone)
    obtain ⟨entry, hmem, hkey, hprogram⟩ := Cache.exists_of_getOrCompile_done hask
    refine ⟨request, hprepare, rfl, ?_⟩
    show program.value.fingerprint = _
    rw [← hprogram, ← hkey]
    exact tagged_asked h request entry hmem
  · exact absurd hdone (hfail operator)

/-- Calls change neither the device nor the options, and programs stay tagged. -/
theorem settled_reached (device : UInt32) (options : Options) (backend : Backend)
    (ties : TieBreak) (calls : List Call) :
    ((create device options backend ties).reached calls).device = device ∧
      ((create device options backend ties).reached calls).options = options ∧
        ((create device options backend ties).reached calls).Tagged := by
  refine Run.final_of_preserved (P := fun context : Context =>
    context.device = device ∧ context.options = options ∧ context.Tagged) ?_ ?_
  · exact ⟨rfl, rfl, fun _ hmem => absurd hmem List.not_mem_nil⟩
  · intro state turn _ hstate hturn
    obtain ⟨hdevice, hoptions, htagged⟩ := hstate
    rw [hturn]
    exact ⟨(device_call state turn.command).trans hdevice,
      (options_call state turn.command).trans hoptions, tagged_call htagged turn.command⟩

/-! ## Operators as objects -/

theorem id_of_call_done {context : Context} {call : Call} {operator : Shared Operator}
    (hdone : (context.call call).result = .done operator) :
    operator.id = context.operators.registered ∧
      (context.call call).state.operators.registered = context.operators.registered + 1 := by
  obtain ⟨request, program, _, _, hresult, hstate⟩ | ⟨hfail, _⟩ := call_cases context call
  · rw [← Outcome.done.inj (hresult.symm.trans hdone), hstate]
    exact ⟨rfl, rfl⟩
  · exact absurd hdone (hfail operator)

theorem registered_le_call (context : Context) (call : Call) :
    context.operators.registered ≤ (context.call call).state.operators.registered :=
  call_preserves (P := fun after => context.operators.registered ≤ after.operators.registered)
    (Nat.le_refl _) (fun _ => Nat.le_refl _) (fun _ _ _ h => Nat.le_succ_of_le h) call

theorem registered_le_id {context : Context} {calls : List Call} {operator : Shared Operator}
    {turn : Turn Call Context (Outcome (Shared Operator))} (hmem : turn ∈ context.history calls)
    (hdone : turn.step.result = .done operator) : context.operators.registered ≤ operator.id := by
  induction calls generalizing context with
  | nil => exact absurd hmem List.not_mem_nil
  | cons call rest ih =>
    rcases List.mem_cons.mp hmem with rfl | hrest
    · exact (id_of_call_done hdone).1.ge
    · exact Nat.le_trans (registered_le_call context call) (ih hrest)

/-- No two successful calls answer the same object. -/
theorem history_pairwise_id_ne (context : Context) (calls : List Call) :
    (context.history calls).Pairwise fun a b => ∀ x y,
      a.step.result = .done x → b.step.result = .done y → x.id ≠ y.id := by
  induction calls generalizing context with
  | nil => exact List.Pairwise.nil
  | cons call rest ih =>
    refine List.Pairwise.cons ?_ (ih (context.call call).state)
    intro later hmem x y hx hy
    obtain ⟨hid, hnext⟩ := id_of_call_done hx
    have hle := registered_le_id hmem hy
    omega

/-! ## The law -/

/-- After any calls a context holds, under each name with a successful call, the object
that the last one of them answered, and nothing under any other name.  Whatever the
backend said of its programs, each answered operator has the aggregation and the
reducer of its call's source and the fingerprint of its call's request. -/
theorem registered_iff_last_success (device : UInt32) (options : Options) (backend : Backend)
    (ties : TieBreak) (calls : List Call) :
    let context := create device options backend ties
    (∀ name operator, (context.reached calls).operator? name = some operator ↔
      ∃ turn, IsLast (Registers name) (context.history calls) turn ∧
        turn.step.result = .done operator) ∧
    (∀ name, ((context.reached calls).operator? name).isSome ↔
      ∃ turn ∈ context.history calls, Registers name turn) ∧
    (∀ name, name ∈ (context.reached calls).operators.names ↔
      ∃ turn ∈ context.history calls, Registers name turn) ∧
    (∀ turn ∈ context.history calls, ∀ operator, turn.step.result = .done operator →
      operator.value.aggregation = (Classification.ofSource turn.command.source).1.aggregation ∧
      operator.value.reducer = (Classification.ofSource turn.command.source).1.reducer ∧
      ∃ root, (options.root turn.command.env).1 = .ok root ∧
        operator.value.program.value.fingerprint = some (Fingerprint.ofRequest
          { name := turn.command.name, source := turn.command.source,
            variant := options.variant, includeFlags := options.includeFlags root, device })) ∧
    (context.history calls).Pairwise fun a b => ∀ x y,
      a.step.result = .done x → b.step.result = .done y → x.id ≠ y.id := by
  intro context
  have hempty : ∀ name, context.operator? name = none := fun _ => rfl
  have hlast := operator?_reached hempty calls
  have hsome : ∀ name, ((context.reached calls).operator? name).isSome ↔
      ∃ turn ∈ context.history calls, Registers name turn := by
    intro name
    rw [← exists_isLast_iff, Option.isSome_iff_exists]
    constructor
    · intro h
      obtain ⟨operator, hoperator⟩ := h
      obtain ⟨turn, hturn, _⟩ := (hlast name operator).mp hoperator
      exact ⟨turn, hturn⟩
    · intro h
      obtain ⟨turn, hturn⟩ := h
      obtain ⟨_, operator, hdone⟩ := hturn.holds
      exact ⟨operator, (hlast name operator).mpr ⟨turn, hturn, hdone⟩⟩
  refine ⟨hlast, hsome, fun name => Registry.mem_names_iff.trans (hsome name), ?_,
    history_pairwise_id_ne context calls⟩
  intro turn hmem operator hdone
  obtain ⟨before, _, _, hturn⟩ := Run.exists_of_mem_turns hmem
  obtain ⟨hdevice, hoptions, htagged⟩ := settled_reached device options backend ties before
  rw [hturn] at hdone
  obtain ⟨request, hprepare, hoperator, hfingerprint⟩ := operator_of_call_done htagged hdone
  rw [hdevice, hoptions] at hprepare
  obtain ⟨_, _, root, hroot, rfl⟩ := Call.of_prepare_ok hprepare
  refine ⟨?_, ?_, root, hroot, hfingerprint⟩
  · rw [hoperator]
    rfl
  · rw [hoperator]
    rfl

end Context
end KernelJit
