/-
The foreign entry points refine the operations on handles.

A foreign caller that passes texts which cannot be read learns so before anyone has looked
at the handle.  Otherwise the entry point does what compiling under the handle does, and its
status tells how that has ended; a crash of the backend is one more way to end, after which
the context is back in its place.  What is registered changes only under the handle and the
name of a compilation that has succeeded.
-/
import KernelJit.Proofs.Session.Effect

namespace KernelJit

theorem Status.code_ofFailure_ne_zero (failure : Failure) : (ofFailure failure).code ≠ 0 := by
  cases failure <;> simp [ofFailure, code]

theorem Status.code_ofOutcome_eq_zero_iff {α : Type} {outcome : Outcome α} :
    (ofOutcome outcome).code = 0 ↔ ∃ value, outcome = .done value := by
  cases outcome with
  | done value => exact ⟨fun _ => ⟨value, rfl⟩, fun _ => rfl⟩
  | failed failure =>
    constructor
    · intro h
      exact absurd h (code_ofFailure_ne_zero failure)
    · intro h
      obtain ⟨value, hvalue⟩ := h
      cases hvalue
  | crashed text =>
    constructor
    · intro h
      cases h
    · intro h
      obtain ⟨value, hvalue⟩ := h
      cases hvalue

theorem Status.eq_success_iff {status : Status} : (status == .success) = true ↔ status.code = 0 := by
  cases status <;> decide

namespace Session

variable {session : Session} {handle other : Handle} {context : Context} {failure : Failure}
  {source name : ForeignText}

/-! ## Compiling -/

theorem compile_of_error (h : session.view handle = .error failure) (source name : String) :
    session.compile handle source name = .unchanged session (.failed failure) :=
  compileIn_of_error h _ source name

theorem view_compile_self (h : session.view handle = .ok context) (source name : String) :
    (session.compile handle source name).state.view handle =
      .ok (context.compile session.settings.environment source name).state := by
  unfold compile
  rw [compileIn_of_ok h]
  exact HandleTable.get_replace_self h _

theorem view_compile_of_ne (hne : other ≠ handle) (source name : String) :
    (session.compile handle source name).state.view other = session.view other := by
  cases hget : session.contexts.get handle with
  | error failure =>
    rw [compile_of_error hget]
    rfl
  | ok context =>
    unfold compile
    rw [compileIn_of_ok hget]
    exact HandleTable.get_replace_of_ne hne _

theorem isLive_compile (session : Session) (handle other : Handle) (source name : String) :
    (session.compile handle source name).state.isLive other = session.isLive other := by
  rw [Bool.eq_iff_iff, isLive_eq_true_iff, isLive_eq_true_iff]
  by_cases hsame : other = handle
  · subst hsame
    cases hget : session.contexts.get other with
    | error failure =>
      rw [compile_of_error hget]
      exact exists_congr fun context => by rw [← hget]; rfl
    | ok context =>
      exact ⟨fun _ => ⟨context, rfl⟩, fun _ => ⟨_, view_compile_self hget source name⟩⟩
  · exact exists_congr fun context => Eq.congr_left (view_compile_of_ne hsame source name)

theorem lent_compile (session : Session) (handle : Handle) (source name : String) :
    (session.compile handle source name).state.lent = session.lent := by
  cases hget : session.contexts.get handle with
  | error failure =>
    rw [compile_of_error hget]
    rfl
  | ok context =>
    unfold compile
    rw [compileIn_of_ok hget]

/-! ## Asking -/

theorem lookup_eq_ok_iff {name : String} {operator : Option (Shared Operator)} :
    session.lookup handle name = .ok operator ↔
      ∃ context, session.view handle = .ok context ∧ context.operator? name = operator := by
  unfold lookup
  cases session.view handle with
  | error failure => simp
  | ok context => simp

theorem hasOperator_eq_true_iff :
    session.hasOperator handle name = true ↔ ∃ text operator, name.Holds text ∧
      session.lookup handle text = .ok (some operator) := by
  unfold hasOperator
  cases hread : name.read "kernel name" with
  | error failure =>
    constructor
    · intro h
      cases h
    · intro h
      obtain ⟨text, _, htext, _⟩ := h
      rw [ForeignText.read_eq_ok_iff.mpr htext] at hread
      cases hread
  | ok text =>
    have htext := ForeignText.read_eq_ok_iff.mp hread
    dsimp only
    cases hlookup : session.lookup handle text with
    | error failure =>
      constructor
      · intro h
        cases h
      · intro h
        obtain ⟨same, operator, hsame, hfound⟩ := h
        rw [← htext.unique hsame, hlookup] at hfound
        cases hfound
    | ok operator =>
      constructor
      · intro h
        obtain ⟨found, rfl⟩ := Option.isSome_iff_exists.mp h
        exact ⟨text, found, htext, hlookup⟩
      · intro h
        obtain ⟨same, found, hsame, hfound⟩ := h
        rw [← htext.unique hsame, hlookup] at hfound
        cases hfound
        rfl

/-- What is found under every name decides what foreign callers are told of names. -/
theorem hasOperator_congr {after : Session}
    (h : ∀ text operator, after.lookup handle text = .ok (some operator) ↔
      session.lookup handle text = .ok (some operator)) :
    after.hasOperator handle name = session.hasOperator handle name := by
  rw [Bool.eq_iff_iff, hasOperator_eq_true_iff, hasOperator_eq_true_iff]
  exact exists_congr fun text => exists_congr fun operator => and_congr_right fun _ =>
    h text operator

theorem operatorCount_of_error (h : session.view handle = .error failure) :
    session.operatorCount handle = -1 := by
  unfold operatorCount
  rw [h]

theorem operatorCount_of_ok (h : session.view handle = .ok context) :
    session.operatorCount handle = context.operators.names.length := by
  unfold operatorCount
  rw [h]
  exact congrArg _ (List.length_map _).symm

theorem operatorCount_eq_neg_one_iff :
    session.operatorCount handle = -1 ↔ session.isLive handle = false := by
  cases hget : session.contexts.get handle with
  | error failure =>
    exact iff_of_true (operatorCount_of_error hget) (isLive_of_error hget)
  | ok context =>
    rw [operatorCount_of_ok hget, isLive_of_ok hget]
    constructor
    · intro h
      omega
    · intro h
      cases h

/-! ## What is registered after a compilation -/

theorem lookup_compile_of_done {text kernel : String} {operator : Shared Operator}
    (h : (session.compile handle text kernel).result = .done operator) :
    ∃ found, (session.compile handle text kernel).state.lookup handle kernel = .ok (some found) := by
  cases hget : session.contexts.get handle with
  | error failure =>
    rw [compile_of_error hget] at h
    cases h
  | ok context =>
    have hdone : (context.call ⟨session.settings.environment, text, kernel⟩).result =
        .done operator := by
      unfold compile at h
      rw [compileIn_of_ok hget] at h
      exact h
    obtain ⟨_, found, _, hfound⟩ | ⟨hnot, _⟩ :=
      context.operator?_call ⟨session.settings.environment, text, kernel⟩ kernel
    · exact ⟨found, lookup_eq_ok_iff.mpr ⟨_, view_compile_self hget text kernel, hfound⟩⟩
    · exact absurd ⟨rfl, operator, hdone⟩ hnot

theorem lookup_compile_of_not_done {text kernel : String}
    (h : ∀ operator, (session.compile handle text kernel).result ≠ .done operator)
    (other : Handle) (asked : String) (operator : Shared Operator) :
    (session.compile handle text kernel).state.lookup other asked = .ok (some operator) ↔
      session.lookup other asked = .ok (some operator) := by
  cases hget : session.contexts.get handle with
  | error failure =>
    rw [compile_of_error hget]
    rfl
  | ok context =>
    by_cases hsame : other = handle
    · subst hsame
      have hfail : ∀ operator,
          (context.call ⟨session.settings.environment, text, kernel⟩).result ≠ .done operator := by
        intro operator hdone
        apply h operator
        unfold compile
        rw [compileIn_of_ok hget]
        exact hdone
      have hkept : (context.compile session.settings.environment text kernel).state.operator? asked =
          context.operator? asked := by
        obtain ⟨_, found, hdone, _⟩ | ⟨_, hkept⟩ :=
          context.operator?_call ⟨session.settings.environment, text, kernel⟩ asked
        · exact absurd hdone (hfail found)
        · exact hkept
      rw [lookup_eq_ok_iff, lookup_eq_ok_iff, view_compile_self hget,
        show session.view other = .ok context from hget]
      simp only [Except.ok.injEq, exists_eq_left', hkept]
    · rw [lookup_eq_ok_iff, lookup_eq_ok_iff, view_compile_of_ne hsame]

theorem exists_names (hsorted : session.Sorted) (hlive : session.isLive handle = true) :
    ∃ names : List String, names.Nodup ∧
      (∀ kernel, kernel ∈ names ↔
        ∃ operator, session.lookup handle kernel = .ok (some operator)) ∧
      session.operatorCount handle = names.length := by
  obtain ⟨context, hcontext⟩ := isLive_eq_true_iff.mp hlive
  refine ⟨context.operators.names, (hsorted.get hcontext).nodup, ?_, operatorCount_of_ok hcontext⟩
  intro kernel
  simp only [Registry.mem_names_iff, lookup_eq_ok_iff, view, hcontext, Except.ok.injEq,
    exists_eq_left']
  exact Option.isSome_iff_exists

/-! ## The law -/

/-- The foreign entry points refine the operations on handles, in every session whose
registries are in order, as they are in all that are reached, and for every number and byte
string.  Texts that cannot be read are reported before the handle is looked at, and nothing
changes.  Otherwise compiling does what compiling under the handle does, and the status is
the one of its outcome; no more is borrowed than before and the context is in its place
again, also after a crash.  The other entry points tell whether the status is success, whether
a name is found, and how many names there are; a name is found after success, and what is
found does not change otherwise. -/
theorem foreign_refines (session : Session) (hsorted : session.Sorted) (handle : Handle)
    (source name : ForeignText) :
    let step := session.compileStatus handle source name
    (((∀ text, ¬source.Holds text) ∨ ∀ text, ¬name.Holds text) →
      step.result.code = -3 ∧ step.state = session ∧ step.trace = []) ∧
    (∀ text kernel, source.Holds text → name.Holds kernel →
      let compiled := session.compile handle text kernel
      (step.result.code = match compiled.result with
        | .done _ => 0
        | .failed failure => (Status.ofFailure failure).code
        | .crashed _ => -101) ∧
      step.state = compiled.state ∧ step.trace = compiled.trace ∧
      ∀ context, session.view handle = .ok context → step.state.view handle =
        .ok (context.compile session.settings.environment text kernel).state) ∧
    (step.state.lent = session.lent ∧
      (∀ other, step.state.isLive other = session.isLive other) ∧
      ∀ other, other ≠ handle → step.state.view other = session.view other) ∧
    ((session.compileSucceeds handle source name).state = step.state ∧
      (session.compileSucceeds handle source name).trace = step.trace ∧
      ((session.compileSucceeds handle source name).result = true ↔ step.result.code = 0)) ∧
    (session.hasOperator handle name = true ↔ ∃ kernel operator, name.Holds kernel ∧
      session.lookup handle kernel = .ok (some operator)) ∧
    (session.operatorCount handle = -1 ↔ session.isLive handle = false) ∧
    (session.isLive handle = true → ∃ names : List String, names.Nodup ∧
      (∀ kernel, kernel ∈ names ↔
        ∃ operator, session.lookup handle kernel = .ok (some operator)) ∧
      session.operatorCount handle = names.length) ∧
    (step.result.code = 0 → step.state.hasOperator handle name = true) ∧
    (step.result.code ≠ 0 → ∀ other asked,
      step.state.hasOperator other asked = session.hasOperator other asked) := by
  intro step
  have hcases := session.compileStatus_cases handle source name
  refine ⟨?_, ?_, ?_, ⟨rfl, rfl, Status.eq_success_iff⟩, hasOperator_eq_true_iff,
    operatorCount_eq_neg_one_iff, exists_names hsorted, ?_, ?_⟩
  · intro hnone
    have hstep : step = .unchanged session .invalidArgument := compileStatus_of_not_holds hnone
    rw [hstep]
    exact ⟨rfl, rfl, rfl⟩
  · intro text kernel htext hkernel compiled
    have hstep : step = compiled.map .ofOutcome := compileStatus_of_holds htext hkernel
    rw [hstep]
    refine ⟨?_, rfl, rfl, fun context hview => view_compile_self hview text kernel⟩
    show (Status.ofOutcome compiled.result).code = _
    cases compiled.result with
    | done operator => rfl
    | failed failure => rfl
    | crashed message => rfl
  · obtain hstep | ⟨text, kernel, _, _, hstep⟩ := hcases
    · rw [show step = _ from hstep]
      exact ⟨rfl, fun _ => rfl, fun _ _ => rfl⟩
    · rw [show step = _ from hstep]
      exact ⟨lent_compile session handle text kernel,
        fun other => isLive_compile session handle other text kernel,
        fun other hne => view_compile_of_ne hne text kernel⟩
  · intro hzero
    obtain hstep | ⟨text, kernel, _, hkernel, hstep⟩ := hcases
    · rw [show step = _ from hstep] at hzero
      cases hzero
    · rw [show step = _ from hstep] at hzero ⊢
      obtain ⟨operator, hdone⟩ := Status.code_ofOutcome_eq_zero_iff.mp hzero
      obtain ⟨found, hfound⟩ := lookup_compile_of_done hdone
      exact hasOperator_eq_true_iff.mpr ⟨kernel, found, hkernel, hfound⟩
  · intro hcode other asked
    obtain hstep | ⟨text, kernel, _, _, hstep⟩ := hcases
    · rw [show step = _ from hstep]
      rfl
    · rw [show step = _ from hstep] at hcode ⊢
      apply hasOperator_congr
      apply lookup_compile_of_not_done
      intro operator hdone
      exact hcode (Status.code_ofOutcome_eq_zero_iff.mpr ⟨operator, hdone⟩)

/-- The backend crashes: the caller is told, and the context is live and has no operator. -/
theorem foreign_refines_crashed :
    let backend : Backend := { name := "crashing", answer := fun _ _ => .crashed "out of memory" }
    let session := Run.final perform empty [.setVariable "CUDA_PATH" (some [0x2f]),
      .createWith 0 { kernelDirs := [], systemDirs := [], cacheMegabytes := 0 } backend]
    -- What follows a zero byte does not count.
    let step := session.compileStatus 1 (some [0x62, 0, 0xff]) (some [0x6b])
    step.result.code = -101 ∧ step.state.isLive 1 = true ∧
      ∀ other asked, step.state.hasOperator other asked = session.hasOperator other asked := by
  intro backend session step
  have hsorted : session.Sorted := sorted_reached sorted_empty _
  have hcode : step.result.code = -101 := by decide +kernel
  have hlive : session.isLive 1 = true := by decide +kernel
  obtain ⟨_, _, ⟨_, hsame, _⟩, _, _, _, _, _, hfail⟩ :=
    foreign_refines session hsorted 1 (some [0x62, 0, 0xff]) (some [0x6b])
  refine ⟨hcode, (hsame 1).trans hlive, hfail ?_⟩
  intro hzero
  cases hcode.symm.trans hzero

end Session
end KernelJit
