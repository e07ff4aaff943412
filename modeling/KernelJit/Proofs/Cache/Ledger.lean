/-
The ledger of a cache: the programs that its backend has compiled, in their order.

A cache gives every program that it stores the next number, so a number says where in
the ledger the program stands, whatever has been put out since.  `Recorded` is this
invariant: the count of stored programs is the length of the ledger, and each entry is
`Listed`, its program under its key at the place of the program's number.  So two
requests that were answered with one object have one fingerprint, under any budget and
with any backend (`answered_id_eq`).
-/
import KernelJit.Proofs.Cache.Compile
import KernelJit.Proofs.Run

namespace KernelJit
namespace Cache

/-! ## The ledger -/

/-- Answer a request from a cache and the backend behind it. -/
def supply (state : Cache × Backend) (request : Request) :
    Step (Cache × Backend) (Outcome (Shared Program)) :=
  state.1.getOrCompile state.2 request

/-- The program that a request has the backend compile, with the request's fingerprint.
There is none if the cache has one, or if the backend fails or crashes. -/
def compiled? (state : Cache × Backend) (request : Request) : Option (Fingerprint × Program) :=
  match state.1.find? (Fingerprint.ofRequest request),
    state.2.answer state.2.received request with
  | none, .done program => some (Fingerprint.ofRequest request, program)
  | _, _ => none

/-- The programs that requests have the backend compile, the first one first. -/
def ledger (start : Cache × Backend) (requests : List Request) : List (Fingerprint × Program) :=
  (Run.stages supply start requests).filterMap fun stage => compiled? stage.1 stage.2

theorem ledger_append (start : Cache × Backend) (a b : List Request) :
    ledger start (a ++ b) = ledger start a ++ ledger (Run.final supply start a) b := by
  rw [ledger, Run.stages_append, List.filterMap_append]
  rfl

theorem ledger_singleton (state : Cache × Backend) (request : Request) :
    ledger state [request] = (compiled? state request).toList := by
  show [(state, request)].filterMap _ = _
  rw [List.filterMap_cons]
  cases compiled? state request <;> rfl

/-- What answering a request comes to: the program is in the cache, or the backend compiles
it, or there is none and the cache but for its counters is as it was. -/
theorem supply_cases (state : Cache × Backend) (request : Request) :
    (∃ entry, state.1.find? (Fingerprint.ofRequest request) = some entry ∧
      compiled? state request = none ∧
      supply state request =
        { result := .done entry.program
          state := (state.1.served (Fingerprint.ofRequest request), state.2)
          trace := [.cacheHit request.name (Fingerprint.ofRequest request)] }) ∨
    (∃ program, state.1.find? (Fingerprint.ofRequest request) = none ∧
      compiled? state request = some (Fingerprint.ofRequest request, program) ∧
      supply state request =
        { result := .done (state.1.missed.insert (Fingerprint.ofRequest request) program).result
          state := ((state.1.missed.insert (Fingerprint.ofRequest request) program).state,
            state.2.asked request)
          trace := calling state.2 request ++
            (state.1.missed.insert (Fingerprint.ofRequest request) program).trace }) ∨
    (compiled? state request = none ∧ (∀ program, (supply state request).result ≠ .done program) ∧
      (supply state request).state = (state.1.missed, state.2.asked request) ∧
      (supply state request).trace = calling state.2 request) := by
  unfold compiled? supply
  cases hfind : state.1.find? (Fingerprint.ofRequest request) with
  | some entry => exact Or.inl ⟨entry, rfl, rfl, getOrCompile_of_hit hfind⟩
  | none =>
    cases hanswer : state.2.answer state.2.received request with
    | done program =>
      exact Or.inr (Or.inl ⟨program, rfl, rfl, getOrCompile_of_done hfind hanswer⟩)
    | failed failure =>
      rw [getOrCompile_of_failed hfind hanswer]
      exact Or.inr (Or.inr ⟨rfl, nofun, rfl, rfl⟩)
    | crashed text =>
      rw [getOrCompile_of_crashed hfind hanswer]
      exact Or.inr (Or.inr ⟨rfl, nofun, rfl, rfl⟩)

/-! ## The numbers of programs -/

/-- A program stands in a ledger at the place of its number, under a key that it is tagged
with. -/
def Listed (programs : List (Fingerprint × Program)) (key : Fingerprint)
    (shared : Shared Program) : Prop :=
  ∃ program, programs[shared.id]? = some (key, program) ∧ shared.value = program.tag key

theorem Listed.append {programs : List (Fingerprint × Program)} {key : Fingerprint}
    {shared : Shared Program} (h : Listed programs key shared)
    (later : List (Fingerprint × Program)) : Listed (programs ++ later) key shared := by
  obtain ⟨program, hplace, hvalue⟩ := h
  have hlt := (List.getElem?_eq_some_iff.mp hplace).1
  exact ⟨program, (List.getElem?_append_left hlt).trans hplace, hvalue⟩

theorem Listed.eq_of_id_eq {programs : List (Fingerprint × Program)} {key other : Fingerprint}
    {p q : Shared Program} (hp : Listed programs key p) (hq : Listed programs other q)
    (hid : p.id = q.id) : key = other ∧ p = q := by
  obtain ⟨program, hplace, hvalue⟩ := hp
  obtain ⟨program', hplace', hvalue'⟩ := hq
  rw [hid, hplace'] at hplace
  cases hplace
  refine ⟨rfl, ?_⟩
  cases p
  cases q
  rw [Shared.mk.injEq]
  exact ⟨hid, hvalue.trans hvalue'.symm⟩

/-- The entries of a cache are programs of a ledger, under their numbers. -/
structure Recorded (cache : Cache) (programs : List (Fingerprint × Program)) : Prop where
  stored : cache.stored = programs.length
  entry : ∀ entry ∈ cache.entries, Listed programs entry.key entry.program

theorem recorded_ofBytes (budget : Size) (ties : TieBreak) : Recorded (ofBytes budget ties) [] :=
  ⟨rfl, fun _ hmem => absurd hmem List.not_mem_nil⟩

theorem Recorded.supply {state : Cache × Backend} {programs : List (Fingerprint × Program)}
    (h : Recorded state.1 programs) (request : Request) :
    Recorded (supply state request).state.1 (programs ++ (compiled? state request).toList) := by
  obtain ⟨entry, _, hnone, hstep⟩ | ⟨program, _, hsome, hstep⟩ | ⟨hnone, _, hstate, _⟩ :=
    supply_cases state request
  · rw [hnone, hstep, Option.toList_none, List.append_nil]
    exact ⟨h.stored, forall_touch (fun _ hlisted => hlisted) h.entry _⟩
  · rw [hsome, hstep]
    constructor
    · show (makeRoom _ _).1.stored + 1 = _
      rw [stored_makeRoom, List.length_append]
      exact congrArg (· + 1) h.stored
    · intro entry hmem
      -- The new entry is the next one of the ledger; older ones stay where they are in it.
      rcases mem_of_mem_insert hmem with hold | rfl
      · exact (h.entry entry hold).append _
      · refine ⟨program, ?_, rfl⟩
        show (programs ++ [(Fingerprint.ofRequest request, program)])[state.1.stored]? = _
        rw [h.stored, List.getElem?_concat_length]
        rfl
  · rw [hnone, hstate, Option.toList_none, List.append_nil]
    exact ⟨h.stored, h.entry⟩

theorem recorded_final (start : Cache × Backend) {before : List (Fingerprint × Program)}
    (h : Recorded start.1 before) (requests : List Request) :
    Recorded (Run.final supply start requests).1 (before ++ ledger start requests) := by
  induction requests generalizing start before with
  | nil =>
    rw [show ledger start [] = [] from rfl, List.append_nil]
    exact h
  | cons request rest ih =>
    have hledger : ledger start (request :: rest) =
        (compiled? start request).toList ++ ledger (supply start request).state rest := by
      rw [← ledger_singleton]
      exact ledger_append start [request] rest
    rw [hledger, ← List.append_assoc]
    exact ih _ (h.supply request)

/-- Every program that a run from an empty cache answers stands in the run's ledger, under
the fingerprint of the request that it was answered to. -/
theorem listed_of_answered {budget : Size} {ties : TieBreak} {backend : Backend}
    {requests : List Request} {turn : Turn Request (Cache × Backend) (Outcome (Shared Program))}
    (hturn : turn ∈ Run.turns supply (ofBytes budget ties, backend) requests)
    {program : Shared Program} (hdone : turn.step.result = .done program) :
    Listed (ledger (ofBytes budget ties, backend) requests)
      (Fingerprint.ofRequest turn.command) program := by
  obtain ⟨before, after, hsplit, hstep⟩ := Run.exists_of_mem_turns hturn
  -- The program is that of an entry after the turn, and that entry is recorded.
  have hrecorded :=
    recorded_final (ofBytes budget ties, backend) (recorded_ofBytes budget ties) before
  have hnext := hrecorded.supply turn.command
  rw [← hstep] at hnext
  rw [hstep] at hdone
  obtain ⟨entry, hmem, hkey, hprogram⟩ := exists_of_getOrCompile_done hdone
  have hentry : Listed _ entry.key entry.program := hnext.entry entry (hstep ▸ hmem)
  rw [hkey, hprogram, ← ledger_singleton, List.nil_append, ← ledger_append] at hentry
  have hrequests : requests = (before ++ [turn.command]) ++ after := by
    rw [List.append_assoc]
    exact hsplit
  rw [hrequests, ledger_append]
  exact hentry.append _

/-- Requests of one run that were answered with one object have one fingerprint. -/
theorem answered_id_eq {budget : Size} {ties : TieBreak} {backend : Backend}
    {requests : List Request} {s t : Turn Request (Cache × Backend) (Outcome (Shared Program))}
    (hs : s ∈ Run.turns supply (ofBytes budget ties, backend) requests)
    (ht : t ∈ Run.turns supply (ofBytes budget ties, backend) requests)
    {p q : Shared Program} (hp : s.step.result = .done p) (hq : t.step.result = .done q)
    (hid : p.id = q.id) :
    Fingerprint.ofRequest s.command = Fingerprint.ofRequest t.command ∧ p = q :=
  (listed_of_answered hs hp).eq_of_id_eq (listed_of_answered ht hq) hid

end Cache
end KernelJit
