/-
What the statistics of a context account for.

A request is counted once, as a hit or as a miss, where the event of it happens.  The number of
entries has no counter.  It goes up by one when the backend returns a program, since that is
stored under a key that was not there, and down by one with each eviction.

`Accounts before asked log after` says that a cache with its backend goes from `before` to
`after` and that `log` tells of every change of the statistics on the way.  Accounts are put
together one after the other (`Accounts.trans`), and events of other kinds do not matter
(`Accounts.quiet`).  So a call is accounted for by its parts, and a run by its calls.
-/
import KernelJit.Proofs.Cache.Account
import KernelJit.Proofs.Cache.Eviction
import KernelJit.Proofs.Context.Events
import KernelJit.Proofs.Context.Verdict

namespace KernelJit

namespace Event

/-- Whether an event is one of those that a cache has while it answers a request. -/
def isCaching : Event → Bool
  | .cacheHit .. | .cacheMiss .. | .backendCalled .. | .evicted _ => true
  | _ => false

end Event

/-- Whether an operation ended with a value. -/
def Outcome.isDone {α : Type} : Outcome α → Bool
  | .done _ => true
  | .failed _ | .crashed _ => false

/-- What a backend answers to requests that it gets one after the other, after those that it
has received. -/
def Backend.answers (backend : Backend) (received : List Request) :
    List Request → List (Outcome Program)
  | [] => []
  | request :: rest =>
    backend.answer received request :: answers backend (received ++ [request]) rest

theorem Backend.answers_append (backend : Backend) (received a b : List Request) :
    backend.answers received (a ++ b) =
      backend.answers received a ++ backend.answers (received ++ a) b := by
  induction a generalizing received with
  | nil => rw [List.append_nil]; rfl
  | cons request rest ih =>
    show _ :: backend.answers _ (rest ++ b) = _ :: (backend.answers _ rest ++ _)
    rw [ih, List.append_assoc, List.singleton_append]

theorem Backend.answers_congr {backend other : Backend} (h : other.answer = backend.answer)
    (received requests : List Request) :
    other.answers received requests = backend.answers received requests := by
  induction requests generalizing received with
  | nil => rfl
  | cons request rest ih =>
    show other.answer _ _ :: _ = backend.answer _ _ :: _
    rw [h, ih]

namespace Cache

/-- Every change of the statistics of a cache is in the log, with so many requests asked. -/
structure Accounts (before : Cache × Backend) (asked : Nat) (log : List Event)
    (after : Cache × Backend) : Prop where
  asked : log.countP Event.isHit + log.countP Event.isMiss = asked
  hits : after.1.hits = before.1.hits + UInt64.ofNat (log.countP Event.isHit)
  misses : after.1.misses = before.1.misses + UInt64.ofNat (log.countP Event.isMiss)
  calls : (Event.requests log).length = log.countP Event.isMiss
  received : after.2.received = before.2.received ++ Event.requests log
  answer : after.2.answer = before.2.answer
  entries : after.1.entries.length + log.countP Event.isEviction = before.1.entries.length +
    (before.2.answers before.2.received (Event.requests log)).countP Outcome.isDone

namespace Accounts

theorem quiet (state : Cache × Backend) {log : List Event}
    (h : ∀ event ∈ log, event.isCaching = false) : Accounts state 0 log state := by
  have hnone : ∀ p : Event → Bool, (∀ event, p event = true → event.isCaching = true) →
      log.countP p = 0 := by
    intro p hp
    refine List.countP_eq_zero.mpr fun event hmem hevent => ?_
    cases (h event hmem).symm.trans (hp event hevent)
  have hhits := hnone Event.isHit (fun event h => by cases event <;> first | rfl | cases h)
  have hmisses := hnone Event.isMiss (fun event h => by cases event <;> first | rfl | cases h)
  have hevictions := hnone Event.isEviction
    (fun event h => by cases event <;> first | rfl | cases h)
  have hrequests : Event.requests log = [] := by
    refine Event.requests_eq_nil fun event hmem => ?_
    have hevent := h event hmem
    cases event <;> first | rfl | cases hevent
  refine ⟨?_, ?_, ?_, ?_, ?_, rfl, ?_⟩
  · rw [hhits, hmisses]
  · rw [hhits]
    exact (UInt64.add_zero _).symm
  · rw [hmisses]
    exact (UInt64.add_zero _).symm
  · rw [hrequests, hmisses]
    rfl
  · rw [hrequests, List.append_nil]
  · rw [hrequests, hevictions]
    rfl

theorem trans {first second third : Cache × Backend} {m n : Nat} {log more : List Event}
    (h : Accounts first m log second) (h' : Accounts second n more third) :
    Accounts first (m + n) (log ++ more) third := by
  have hanswers : first.2.answers first.2.received (Event.requests (log ++ more)) =
      first.2.answers first.2.received (Event.requests log) ++
        second.2.answers second.2.received (Event.requests more) := by
    rw [Event.requests_append, Backend.answers_append, h.received,
      Backend.answers_congr h.answer]
  refine ⟨?_, ?_, ?_, ?_, ?_, h'.answer.trans h.answer, ?_⟩
  · have hfirst := h.asked
    have hsecond := h'.asked
    rw [List.countP_append, List.countP_append]
    omega
  · rw [h'.hits, h.hits, List.countP_append, UInt64.ofNat_add, UInt64.add_assoc]
  · rw [h'.misses, h.misses, List.countP_append, UInt64.ofNat_add, UInt64.add_assoc]
  · rw [Event.requests_append, List.length_append, List.countP_append, h.calls, h'.calls]
  · rw [h'.received, h.received, Event.requests_append, List.append_assoc]
  · have hfirst := h.entries
    have hsecond := h'.entries
    rw [hanswers, List.countP_append, List.countP_append]
    omega

end Accounts

/-! ## One request -/

theorem counters_insert (cache : Cache) (key : Fingerprint) (program : Program) :
    (cache.insert key program).state.hits = cache.hits ∧
      (cache.insert key program).state.misses = cache.misses :=
  evictUpTo_of_preserved (P := fun after => after.hits = cache.hits ∧ after.misses = cache.misses)
    (fun _ _ _ hafter => hafter) ⟨rfl, rfl⟩ program.size _

theorem countP_isEviction_insert (cache : Cache) (key : Fingerprint) (program : Program) :
    (cache.insert key program).trace.countP Event.isEviction =
      (cache.insert key program).trace.length :=
  List.countP_eq_length.mpr
    (forall_insert_trace (P := fun event => event.isEviction = true) (fun _ => rfl) _ _ _)

theorem countP_insert_trace {p : Event → Bool} (hp : ∀ key, p (.evicted key) = false)
    (cache : Cache) (key : Fingerprint) (program : Program) :
    (cache.insert key program).trace.countP p = 0 := by
  refine List.countP_eq_zero.mpr ?_
  refine forall_insert_trace (P := fun event => ¬p event = true) ?_ cache key program
  intro gone
  rw [hp]
  exact Bool.false_ne_true

theorem distinct_supply {state : Cache × Backend} (h : state.1.Distinct) (request : Request) :
    (supply state request).state.1.Distinct := by
  rcases supply_cases state request with ⟨entry, _, _, hstep⟩ | ⟨program, _, _, hstep⟩ |
    ⟨_, _, hstate, _⟩
  · rw [hstep]
    show ((state.1.touch (Fingerprint.ofRequest request)).entries.map (·.key)).Nodup
    rw [keys_touch]
    exact h
  · have hmissed : state.1.missed.Distinct := h
    rw [hstep]
    exact distinct_insert hmissed _ _
  · rw [hstate]
    exact h

/-- A request whose program is compiled is one miss and one more entry, but for those that the
new one has put out. -/
theorem accounts_of_done {state : Cache × Backend} {request : Request} {program : Program}
    (h : state.1.Distinct) (hfind : state.1.find? (Fingerprint.ofRequest request) = none)
    (hanswer : state.2.answer state.2.received request = .done program) :
    Accounts state 1 (supply state request).trace (supply state request).state := by
  have hmissed : state.1.missed.Distinct := h
  have hlength := length_insert hmissed hfind program
  have hstep : supply state request = _ := getOrCompile_of_done hfind hanswer
  rw [hstep]
  generalize Fingerprint.ofRequest request = key at hlength
  have hcounters := counters_insert state.1.missed key program
  have hevictions := countP_isEviction_insert state.1.missed key program
  have hhits := countP_insert_trace (p := Event.isHit) (fun _ => rfl) state.1.missed key program
  have hmisses := countP_insert_trace (p := Event.isMiss) (fun _ => rfl) state.1.missed key program
  have hrequests : Event.requests (calling state.2 request ++
      (state.1.missed.insert key program).trace) = [request] := by
    rw [Event.requests_append, requests_insert]
    rfl
  refine ⟨?_, ?_, ?_, ?_, ?_, rfl, ?_⟩
  · rw [List.countP_append, List.countP_append, hhits, hmisses]
    rfl
  · rw [List.countP_append, hhits, hcounters.1]
    exact (UInt64.add_zero _).symm
  · rw [List.countP_append, hmisses, hcounters.2]
    rfl
  · rw [hrequests, List.countP_append, hmisses]
    rfl
  · rw [hrequests]
    rfl
  · have hanswers : state.2.answers state.2.received [request] = [.done program] := by
      show [state.2.answer _ _] = _
      rw [hanswer]
    rw [hrequests, hanswers, List.countP_append, hevictions]
    show _ + (0 + _) = state.1.entries.length + 1
    rw [Nat.zero_add]
    exact hlength

/-- The log of an answered request accounts for it. -/
theorem accounts_supply {state : Cache × Backend} (h : state.1.Distinct) (request : Request) :
    Accounts state 1 (supply state request).trace (supply state request).state := by
  cases hfind : state.1.find? (Fingerprint.ofRequest request) with
  | some entry =>
    have hstep : supply state request = _ := getOrCompile_of_hit hfind
    rw [hstep]
    refine ⟨rfl, rfl, (UInt64.add_zero _).symm, rfl, (List.append_nil _).symm, rfl, ?_⟩
    show (state.1.entries.map _).length + 0 = _
    rw [List.length_map]
    rfl
  | none =>
    cases hanswer : state.2.answer state.2.received request with
    | done program => exact accounts_of_done h hfind hanswer
    | failed failure =>
      have hstep : supply state request = _ := getOrCompile_of_failed hfind hanswer
      rw [hstep]
      refine ⟨rfl, (UInt64.add_zero _).symm, rfl, rfl, rfl, rfl, ?_⟩
      show _ = _ + [state.2.answer _ _].countP _
      rw [hanswer]
      rfl
    | crashed text =>
      have hstep : supply state request = _ := getOrCompile_of_crashed hfind hanswer
      rw [hstep]
      refine ⟨rfl, (UInt64.add_zero _).symm, rfl, rfl, rfl, rfl, ?_⟩
      show _ = _ + [state.2.answer _ _].countP _
      rw [hanswer]
      rfl

end Cache

/-! ## Calls -/

/-- A call passes the checks of its name, its source and the toolchain root. -/
def Call.Passes (options : Options) (call : Call) : Prop :=
  call.name ≠ "" ∧ call.source ≠ "" ∧ ¬call.env.Unset options.rootVariable

instance (env : Environment) (var : String) : Decidable (env.Unset var) :=
  inferInstanceAs (Decidable (_ ∨ _))

instance (options : Options) (call : Call) : Decidable (call.Passes options) :=
  inferInstanceAs (Decidable (_ ∧ _ ∧ _))

theorem Call.passes_iff {device : UInt32} {options : Options} {call : Call} :
    call.Passes options ↔ ∃ request, call.prepare device options = .ok request := by
  constructor
  · intro h
    obtain ⟨hname, hsource, hset⟩ := h
    obtain ⟨root, hroot, hne⟩ := (options.unset_or_set call.env).resolve_left hset
    exact ⟨_, by rw [prepare, if_neg hname, if_neg hsource, Options.root_of_set hroot hne]⟩
  · intro h
    obtain ⟨request, hrequest⟩ := h
    obtain ⟨hname, hsource, root, hroot, _⟩ := of_prepare_ok hrequest
    obtain ⟨hset, hne⟩ := Options.root_eq_ok_iff.mp hroot
    refine ⟨hname, hsource, ?_⟩
    rintro (hunset | hempty)
    · cases hunset.symm.trans hset
    · cases hempty.symm.trans hset
      exact hne rfl

namespace Context

variable {context : Context}

theorem distinct_call (h : context.cache.Distinct) (call : Call) :
    (context.call call).state.cache.Distinct :=
  have hstock : context.stock.1.Distinct := h
  call_preserves (P := fun after => after.cache.Distinct) h
    (fun request => Cache.distinct_supply hstock request) (fun _ _ _ h => h) call

/-- The log of a call accounts for it: what the call logs besides is of other kinds. -/
theorem accounts_call (h : context.cache.Distinct) (call : Call) :
    Cache.Accounts context.stock (if call.Passes context.options then 1 else 0)
      (context.call call).trace (context.call call).state.stock := by
  have hbegun : ∀ event ∈ call.begun context.options, event.isCaching = false :=
    Call.forall_begun (fun _ _ => rfl) (fun _ => rfl) _ _
  cases hprepare : call.prepare context.device context.options with
  | error failure =>
    have hrefused : ¬call.Passes context.options := by
      intro hpasses
      obtain ⟨request, hrequest⟩ := Call.passes_iff.mp hpasses
      cases hprepare.symm.trans hrequest
    rw [if_neg hrefused, stock_call_of_error hprepare, call_of_refused hprepare]
    exact .quiet _ hbegun
  | ok request =>
    have hclassified : ∀ event ∈ (Classification.ofSource call.source).2,
        event.isCaching = false :=
      Classification.forall_ofSource (P := fun event => event.isCaching = false) rfl
        (fun _ => rfl) (fun _ _ => rfl) _
    have hfinish : ∀ event ∈ ((context.asked request).finish call
        (context.ask request).result).trace, event.isCaching = false :=
      forall_finish (fun _ _ => rfl) (fun _ => rfl) _ _ _
    have hstock : context.stock.1.Distinct := h
    have hask := Cache.accounts_supply hstock request
    rw [if_pos (Call.passes_iff.mpr ⟨request, hprepare⟩), stock_call_of_ok hprepare,
      call_of_prepared hprepare]
    have hasked := (Cache.Accounts.quiet _ hbegun).trans
      ((Cache.Accounts.quiet _ hclassified).trans hask)
    exact (hasked.trans (.quiet _ hfinish))

theorem accounts_run (h : context.cache.Distinct) (calls : List Call) :
    Cache.Accounts context.stock (calls.countP (·.Passes context.options)) (context.log calls)
      (context.reached calls).stock := by
  induction calls generalizing context with
  | nil => exact .quiet _ (List.forall_mem_nil _)
  | cons call rest ih =>
    have hcall := accounts_call h call
    have hrest := ih (distinct_call h call)
    rw [options_call] at hrest
    have hcount : (call :: rest).countP (·.Passes context.options) =
        (if call.Passes context.options then 1 else 0) +
          rest.countP (·.Passes context.options) := by
      rw [List.countP_cons, Nat.add_comm]
      simp only [decide_eq_true_eq]
    rw [hcount]
    exact hcall.trans hrest

/-- Whatever concerns the cache in a call happens while it is asked. -/
theorem mem_ask_of_isCaching {call : Call} {request : Request}
    (hprepare : call.prepare context.device context.options = .ok request) {event : Event}
    (hmem : event ∈ (context.call call).trace) (hcaching : event.isCaching = true) :
    event ∈ (context.ask request).trace := by
  have hnot : event.isCaching ≠ false := by
    rw [hcaching]
    exact Bool.noConfusion
  rw [call_of_prepared hprepare] at hmem
  rcases List.mem_append.mp hmem with hbefore | hend
  · rcases List.mem_append.mp hbefore with hfirst | hrest
    · exact absurd (Call.forall_begun (P := fun event => event.isCaching = false)
        (fun _ _ => rfl) (fun _ => rfl) _ _ event hfirst) hnot
    · rcases List.mem_append.mp hrest with hclassified | hasked
      · exact absurd (Classification.forall_ofSource (P := fun event => event.isCaching = false)
          rfl (fun _ => rfl) (fun _ _ => rfl) _ event hclassified) hnot
      · exact hasked
  · exact absurd (forall_finish (P := fun event => event.isCaching = false)
      (fun _ _ => rfl) (fun _ => rfl) _ _ _ event hend) hnot

/-- Something is put out only for a program that was compiled, and then the call has
succeeded and was no hit. -/
theorem done_of_evicted {call : Call} {key : Fingerprint}
    (h : Event.evicted key ∈ (context.call call).trace) :
    (∃ operator, (context.call call).result = .done operator) ∧
      ∀ event ∈ (context.call call).trace, event.isHit = false := by
  cases hprepare : call.prepare context.device context.options with
  | error failure =>
    rw [call_of_refused hprepare] at h
    have hnot := Call.forall_begun (P := fun event => event.isCaching = false)
      (fun _ _ => rfl) (fun _ => rfl) _ _ _ h
    cases hnot
  | ok request =>
    have hevicted := mem_ask_of_isCaching hprepare h rfl
    rcases Cache.supply_cases context.stock request with ⟨entry, _, _, hstep⟩ |
      ⟨program, _, _, hstep⟩ | ⟨_, _, _, htrace⟩
    · rw [show context.ask request = _ from hstep] at hevicted
      simp at hevicted
    · have hask : context.ask request = _ := hstep
      constructor
      · rw [call_of_prepared hprepare, hask, finish, register_eq]
        exact ⟨_, rfl⟩
      · intro event hmem
        cases hhit : event.isHit with
        | false => rfl
        | true =>
          have hcaching : event.isCaching = true := by cases event <;> first | rfl | cases hhit
          have hasked := mem_ask_of_isCaching hprepare hmem hcaching
          rw [hask] at hasked
          rcases List.mem_append.mp hasked with hcalling | hinsert
          · simp only [Cache.calling, List.mem_cons, List.not_mem_nil, or_false] at hcalling
            rcases hcalling with rfl | rfl <;> cases hhit
          · have hnone := Cache.forall_insert_trace (P := fun event => event.isHit = false)
              (fun _ => rfl) _ _ _ event hinsert
            exact hhit.symm.trans hnone
    · rw [show (context.ask request).trace = _ from htrace] at hevicted
      simp [Cache.calling] at hevicted

/-- The statistics of a context account for everything that has happened in it, with any
backend and however the calls end, as long as the counters hold. -/
theorem statistics_account (device : UInt32) (options : Options) (backend : Backend)
    (ties : TieBreak) (calls : List Call)
    (hhits : ((create device options backend ties).log calls).countP Event.isHit < 2 ^ 64)
    (hmisses : ((create device options backend ties).log calls).countP Event.isMiss < 2 ^ 64) :
    let context := create device options backend ties
    let log := context.log calls
    let after := context.reached calls
    after.cache.hits.toNat + after.cache.misses.toNat = calls.countP (·.Passes options) ∧
    after.cache.misses.toNat = (Event.requests log).length ∧
    after.cache.misses.toNat = log.countP Event.isMiss ∧
    after.cache.hits.toNat = log.countP Event.isHit ∧
    after.backend.received = backend.received ++ Event.requests log ∧
    after.cache.entries.length + log.countP Event.isEviction =
      (backend.answers backend.received (Event.requests log)).countP Outcome.isDone ∧
    ∀ turn ∈ context.history calls,
      (∃ event ∈ turn.step.trace, event.isHit = true) ∨
        (∀ operator, turn.step.result ≠ .done operator) →
      ∀ key, Event.evicted key ∉ turn.step.trace := by
  intro context log after
  have hempty : context.cache.Distinct := List.nodup_nil
  have haccounts : Cache.Accounts context.stock _ log after.stock := accounts_run hempty calls
  have hhit : after.cache.hits.toNat = log.countP Event.isHit := by
    rw [show after.cache.hits = 0 + _ from haccounts.hits, UInt64.zero_add, UInt64.toNat_ofNat']
    exact Nat.mod_eq_of_lt hhits
  have hmiss : after.cache.misses.toNat = log.countP Event.isMiss := by
    rw [show after.cache.misses = 0 + _ from haccounts.misses, UInt64.zero_add,
      UInt64.toNat_ofNat']
    exact Nat.mod_eq_of_lt hmisses
  refine ⟨?_, ?_, hmiss, hhit, haccounts.received, ?_, ?_⟩
  · rw [hhit, hmiss]
    exact haccounts.asked
  · rw [hmiss]
    exact haccounts.calls.symm
  · exact haccounts.entries.trans (Nat.zero_add _)
  · intro turn hturn hquiet key hevicted
    obtain ⟨before, rest, _, hstep⟩ := Run.exists_of_mem_turns hturn
    rw [hstep] at hquiet hevicted
    obtain ⟨⟨operator, hdone⟩, hnohit⟩ := done_of_evicted hevicted
    rcases hquiet with ⟨event, hmem, hhit⟩ | hfails
    · cases hhit.symm.trans (hnohit event hmem)
    · exact hfails operator hdone

/-- A program is compiled and found again, a request fails, one crashes, two calls are refused,
and another program takes the place of the first in a cache without any room. -/
theorem statistics_account_mixed :
    let backend : Backend :=
      { name := "mixed"
        answer := fun _ request =>
          if request.source = "f" then .failed (.compilationFailed request.name "rejected")
          else if request.source = "c" then .crashed "out of memory"
          else .done { ptx := request.source, device := 1, variant := 2 } }
    let options : Options := { kernelDirs := [], systemDirs := [], cacheMegabytes := 0 }
    let env : Environment := fun _ => some "/"
    let calls : List Call := [⟨env, "a", "k"⟩, ⟨env, "a", "m"⟩, ⟨env, "f", "k"⟩,
      ⟨env, "", "k"⟩, ⟨env, "c", "k"⟩, ⟨fun _ => none, "a", "k"⟩, ⟨env, "b", "k"⟩]
    let context := create 0 options backend .oldest
    let after := context.reached calls
    calls.countP (·.Passes options) = 5 ∧ (context.log calls).countP Event.isEviction = 1 ∧
      after.cache.hits.toNat + after.cache.misses.toNat = calls.countP (·.Passes options) ∧
      after.cache.misses.toNat = (Event.requests (context.log calls)).length ∧
      after.cache.entries.length + (context.log calls).countP Event.isEviction =
        (backend.answers backend.received (Event.requests (context.log calls))).countP
          Outcome.isDone := by
  intro backend options env calls context after
  have hpasses : calls.countP (·.Passes options) = 5 := by decide +kernel
  -- Every request is a hit or a miss, so the calls bound both counts.
  have hempty : context.cache.Distinct := List.nodup_nil
  have hasked := (accounts_run hempty calls).asked
  rw [show context.options = options from rfl, hpasses] at hasked
  have haccount := statistics_account 0 options backend .oldest calls
    (show (context.log calls).countP Event.isHit < 2 ^ 64 by omega)
    (show (context.log calls).countP Event.isMiss < 2 ^ 64 by omega)
  refine ⟨hpasses, by decide +kernel, ?_⟩
  dsimp only [after, context]
  exact ⟨haccount.1, haccount.2.1, haccount.2.2.2.2.2.1⟩

end Context
end KernelJit
