/-
What a cache represents, whatever is done to it.

`Represented` is the invariant of a cache: the size is the sum over the entries, each
entry has the size of its program and its own key as the program's fingerprint, and
the entries fit the budget unless the only one is larger than the budget.  Every
command keeps it, and every insertion on the way is `Exact`: no difference of sizes is
cut at zero and no sum wraps.

A sum of sizes that is cut at the largest size never fits a budget below it, so under
such a budget nothing is asked of the sizes but that each is a 64-bit number.  Under
the largest budget every sum fits, nothing is ever put out, and the sizes of the
stored programs must have a 64-bit sum.
-/
import KernelJit.Cache.Command
import KernelJit.Proofs.Cache.Account
import KernelJit.Proofs.Run

namespace KernelJit

/-- The length of the text is a 64-bit number. -/
def Program.Fits (program : Program) : Prop :=
  program.ptx.utf8ByteSize < 2 ^ 64

theorem Program.Fits.toNat_size {program : Program} (h : program.Fits) :
    program.size.toNat = program.ptx.utf8ByteSize := by
  rw [Program.size, UInt64.toNat_ofNat']
  exact Nat.mod_eq_of_lt h

/-- A backend that answers every request with the same text. -/
def Backend.constant (ptx : String) : Backend where
  name := "constant"
  answer _ request := .done { ptx, device := request.device, variant := request.variant }

theorem Backend.fits_constant {ptx : String} (h : ptx.utf8ByteSize < 2 ^ 64) :
    ∀ received request program,
      (constant ptx).answer received request = .done program → program.Fits := by
  rintro _ _ _ hanswer
  cases hanswer
  exact h

namespace Cache

/-- An insertion of a program of this size under `key` takes exact differences and an
exact sum: at each entry that is put out, at the entry that is replaced, and when the
new entry is added. -/
structure Exact (cache : Cache) (key : Fingerprint) (size : Size) : Prop where
  evicting : ∀ n entry, (evictUpTo size n cache).1.fits size = false →
    (evictUpTo size n cache).1.victim? = some entry →
      entry.size.toNat ≤ (evictUpTo size n cache).1.size.toNat
  replacing : ∀ old, (cache.makeRoom size).1.find? key = some old →
    old.size.toNat ≤ (cache.makeRoom size).1.size.toNat
  adding : ((cache.makeRoom size).1.sizeWithout key).toNat + size.toNat < 2 ^ 64

/-- An entry has the size of its program, which carries the entry's key. -/
def Entry.Faithful (entry : Entry) : Prop :=
  entry.size.toNat = entry.program.value.ptx.utf8ByteSize ∧
    entry.program.value.fingerprint = some entry.key

structure Represented (cache : Cache) : Prop extends Counted cache where
  entry : ∀ entry ∈ cache.entries, entry.Faithful
  budget : cache.size ≤ cache.budget ∨
    ∃ entry, cache.entries = [entry] ∧ cache.budget < entry.size

/-! ## Insertions -/

theorem budget_evictUpTo (cache : Cache) (size : Size) (n : Nat) :
    (evictUpTo size n cache).1.budget = cache.budget :=
  evictUpTo_of_preserved (P := fun after => after.budget = cache.budget)
    (fun _ _ _ hafter => hafter) rfl size n

theorem toNat_add_le_of_fits {cache : Cache} {size : Size} (h : cache.fits size = true)
    (hbudget : cache.budget.toNat < 2 ^ 64 - 1) :
    cache.size.toNat + size.toNat ≤ cache.budget.toNat := by
  have hle := UInt64.le_iff_toNat_le.mp (of_decide_eq_true h)
  rw [Size.toNat_add] at hle
  omega

theorem toNat_sizeWithout_le (cache : Cache) (key : Fingerprint) :
    (cache.sizeWithout key).toNat ≤ cache.size.toNat := by
  cases hfind : cache.find? key with
  | none =>
    rw [sizeWithout, hfind]
  | some old =>
    rw [sizeWithout, hfind]
    show (Size.sub cache.size old.size).toNat ≤ _
    rw [Size.toNat_sub]
    exact Nat.sub_le _ _

theorem sizeWithout_of_empty {cache : Cache} (h : Counted cache) (hempty : cache.entries = [])
    (key : Fingerprint) : (cache.sizeWithout key).toNat = 0 := by
  rw [h.toNat_sizeWithout key, hempty]
  rfl

/-- The bytes stored after an insertion have a 64-bit sum. -/
def Bounded (cache : Cache) (key : Fingerprint) (program : Program) : Prop :=
  cache.budget.toNat = 2 ^ 64 - 1 → total (cache.insert key program).state.entries < 2 ^ 64

variable {cache : Cache} {key : Fingerprint} {program : Program}

theorem exact_of_counted (h : Counted cache) (hbound : Bounded cache key program) :
    Exact cache key program.size := by
  have hroom : Counted (cache.makeRoom program.size).1 := h.evictUpTo _ _
  refine ⟨fun n entry _ hvictim => ?_, fun old hfind => ?_, ?_⟩
  · exact (h.evictUpTo _ n).toNat_size_le (mem_of_victim? hvictim)
  · exact hroom.toNat_size_le (mem_of_find? hfind)
  · by_cases hbudget : cache.budget.toNat = 2 ^ 64 - 1
    · have htotal := hbound hbudget
      rwa [insert_state, hroom.total_put] at htotal
    · have hlt := cache.budget.toNat_lt
      have hsize := program.size.toNat_lt
      rcases makeRoom_fits_or_empty cache program.size with hfits | hempty
      · have hsame : (cache.makeRoom program.size).1.budget = cache.budget :=
          budget_evictUpTo _ _ _
        have hsum := toNat_add_le_of_fits hfits (by rw [hsame]; omega)
        have hle := toNat_sizeWithout_le (cache.makeRoom program.size).1 key
        rw [hsame] at hsum
        omega
      · rw [sizeWithout_of_empty hroom hempty]
        omega

namespace Represented

theorem insert (h : Represented cache) (hfits : program.Fits)
    (hbound : Bounded cache key program) :
    Represented (cache.insert key program).state := by
  have hroom : Counted (cache.makeRoom program.size).1 := h.toCounted.evictUpTo _ _
  have hexact := exact_of_counted h.toCounted hbound
  have hcounted : Counted (cache.insert key program).state := by
    rw [insert_state]
    exact hroom.put hexact.adding
  have hentry : ∀ entry ∈ (cache.insert key program).state.entries, entry.Faithful :=
    forall_insert h.entry fun _ => ⟨hfits.toNat_size, rfl⟩
  refine ⟨hcounted, hentry, ?_⟩
  have hsame : (cache.makeRoom program.size).1.budget = cache.budget := budget_evictUpTo _ _ _
  have hsize : (cache.insert key program).state.size.toNat =
      ((cache.makeRoom program.size).1.sizeWithout key).toNat + program.size.toNat := by
    rw [hcounted.size, insert_state, hroom.total_put]
  show _ ≤ (cache.makeRoom program.size).1.budget ∨ _
  rw [hsame, UInt64.le_iff_toNat_le, hsize]
  have hlt := cache.budget.toNat_lt
  rcases makeRoom_fits_or_empty cache program.size with hroomy | hempty
  · left
    -- Only the largest budget admits a sum that has been cut.
    by_cases hbudget : cache.budget.toNat = 2 ^ 64 - 1
    · have hadding := hexact.adding
      omega
    · have hsum := toNat_add_le_of_fits hroomy (by rw [hsame]; omega)
      have hle := toNat_sizeWithout_le (cache.makeRoom program.size).1 key
      rw [hsame] at hsum
      omega
  · rw [sizeWithout_of_empty hroom hempty, Nat.zero_add]
    by_cases hle : program.size.toNat ≤ cache.budget.toNat
    · exact Or.inl hle
    · right
      refine ⟨Entry.fresh key program (cache.makeRoom program.size).1.stored, ?_, ?_⟩
      · show (cache.makeRoom program.size).1.entries.filter _ ++ _ = _
        rw [hempty]
        rfl
      · show (cache.makeRoom program.size).1.budget < program.size
        rw [hsame, UInt64.lt_iff_toNat_lt]
        omega

theorem touch (h : Represented cache) (key : Fingerprint) : Represented (cache.touch key) := by
  refine ⟨h.toCounted.touch key, forall_touch (fun _ hentry => hentry) h.entry key, ?_⟩
  rcases h.budget with hle | ⟨entry, hentries, hlt⟩
  · exact Or.inl hle
  · right
    refine ⟨if entry.key = key then entry.use else entry, ?_, ?_⟩
    · show cache.entries.map _ = _
      rw [hentries]
      rfl
    · rw [apply_ite Entry.size]
      exact lt_of_lt_of_eq hlt (ite_self _).symm

theorem counters (h : Represented cache) (hits misses : UInt64) :
    Represented { cache with hits, misses } :=
  ⟨⟨h.keys, h.size⟩, h.entry, h.budget⟩

theorem clear (cache : Cache) : Represented cache.clear :=
  ⟨⟨List.nodup_nil, rfl⟩, fun _ hmem => absurd hmem List.not_mem_nil,
    Or.inl (UInt64.zero_le)⟩

end Represented

/-! ## Runs of commands -/

/-- Carry out a command on a cache and a backend. -/
def serve (state : Cache × Backend) (command : Command) : Step (Cache × Backend) Reply :=
  state.1.perform state.2 command

/-- The insertion that a command comes to, if any: the cache that it is made in, the
key and the program. -/
def Command.insertion? (cache : Cache) (backend : Backend) :
    Command → Option (Cache × Fingerprint × Program)
  | .insert key program => some (cache, key, program)
  | .getOrCompile request =>
    match cache.find? (Fingerprint.ofRequest request),
      backend.answer backend.received request with
    | none, .done program => some (cache.missed, Fingerprint.ofRequest request, program)
    | _, _ => none
  | .get _ => none
  | .clear => none

variable {backend : Backend}

/-- What a command does to a cache: an insertion, a use of an entry, the end of all
entries, or nothing to the entries at all. -/
theorem perform_cases (cache : Cache) (backend : Backend) (command : Command) :
    (∃ into key program, command.insertion? cache backend = some (into, key, program) ∧
      (into = cache ∧ command = .insert key program ∨
        into = cache.missed ∧
          ∃ request, backend.answer backend.received request = .done program) ∧
      (cache.perform backend command).state.1 = (into.insert key program).state) ∨
    (command.insertion? cache backend = none ∧
      ((∃ key hits, (cache.perform backend command).state.1 =
          { cache.touch key with hits }) ∨
        (∃ misses, (cache.perform backend command).state.1 = { cache with misses }) ∨
        (cache.perform backend command).state.1 = cache.clear)) := by
  cases command with
  | insert key program => exact Or.inl ⟨cache, key, program, rfl, Or.inl ⟨rfl, rfl⟩, rfl⟩
  | clear => exact Or.inr ⟨rfl, Or.inr (Or.inr rfl)⟩
  | get key =>
    refine Or.inr ⟨rfl, ?_⟩
    show (∃ _ _, (cache.get key).2 = _) ∨ (∃ _, (cache.get key).2 = _) ∨ _
    cases hfind : cache.find? key with
    | some entry =>
      rw [get, hfind]
      exact Or.inl ⟨key, cache.hits, rfl⟩
    | none =>
      rw [get, hfind]
      exact Or.inr (Or.inl ⟨cache.misses, rfl⟩)
  | getOrCompile request =>
    rw [Command.insertion?]
    show (∃ _ _ _, _ ∧ _ ∧ (cache.getOrCompile backend request).state.1 = _) ∨
      (_ ∧ ((∃ _ _, (cache.getOrCompile backend request).state.1 = _) ∨
        (∃ _, (cache.getOrCompile backend request).state.1 = _) ∨ _))
    cases hfind : cache.find? (Fingerprint.ofRequest request) with
    | some entry =>
      rw [getOrCompile_of_hit hfind]
      exact Or.inr ⟨rfl, Or.inl ⟨_, _, rfl⟩⟩
    | none =>
      cases hanswer : backend.answer backend.received request with
      | done program =>
        rw [getOrCompile_of_done hfind hanswer]
        exact Or.inl ⟨_, _, program, rfl, Or.inr ⟨rfl, request, hanswer⟩, rfl⟩
      | failed failure =>
        rw [getOrCompile_of_failed hfind hanswer]
        exact Or.inr ⟨rfl, Or.inr (Or.inl ⟨_, rfl⟩)⟩
      | crashed text =>
        rw [getOrCompile_of_crashed hfind hanswer]
        exact Or.inr ⟨rfl, Or.inr (Or.inl ⟨_, rfl⟩)⟩

theorem insertion?_eq_some {command : Command} {into : Cache}
    (h : command.insertion? cache backend = some (into, key, program)) :
    into = cache ∧ command = .insert key program ∨
      into = cache.missed ∧
        ∃ request, backend.answer backend.received request = .done program := by
  obtain ⟨_, _, _, hsome, hinto, _⟩ | ⟨hnone, _⟩ := perform_cases cache backend command
  · have hsame := h.symm.trans hsome
    simp only [Option.some.injEq, Prod.mk.injEq] at hsame
    obtain ⟨rfl, rfl, rfl⟩ := hsame
    exact hinto
  · rw [hnone] at h
    cases h

theorem budget_insert (cache : Cache) (key : Fingerprint) (program : Program) :
    (cache.insert key program).state.budget = cache.budget :=
  budget_evictUpTo cache program.size _

theorem budget_perform (cache : Cache) (backend : Backend) (command : Command) :
    (cache.perform backend command).state.1.budget = cache.budget := by
  obtain ⟨into, key, program, _, hinto, hstate⟩ | ⟨_, hstate⟩ :=
    perform_cases cache backend command
  · rw [hstate, budget_insert]
    rcases hinto with ⟨rfl, _⟩ | ⟨rfl, _⟩ <;> rfl
  · rcases hstate with ⟨key, hits, hstate⟩ | ⟨misses, hstate⟩ | hstate
    · rw [hstate]
      rfl
    · rw [hstate]
    · rw [hstate]
      rfl

theorem answer_perform (cache : Cache) (backend : Backend) (command : Command) :
    (cache.perform backend command).state.2.answer = backend.answer := by
  cases command with
  | insert key program => rfl
  | get key => rfl
  | clear => rfl
  | getOrCompile request => exact answer_getOrCompile cache backend request

/-- One command keeps the representation, and its insertion is exact. -/
theorem represented_perform {command : Command} (h : Represented cache)
    (hfits : ∀ into key program,
      command.insertion? cache backend = some (into, key, program) → program.Fits)
    (htotal : cache.budget.toNat = 2 ^ 64 - 1 →
      total (cache.perform backend command).state.1.entries < 2 ^ 64) :
    Represented (cache.perform backend command).state.1 ∧
      ∀ into key program, command.insertion? cache backend = some (into, key, program) →
        Exact into key program.size := by
  obtain ⟨into, key, program, hsome, hinto, hstate⟩ | ⟨hnone, hstate⟩ :=
    perform_cases cache backend command
  · have hrepresented : Represented into := by
      rcases hinto with ⟨rfl, _⟩ | ⟨rfl, _⟩
      · exact h
      · exact h.counters cache.hits (cache.misses + 1)
    have hbound : Bounded into key program := by
      intro hbudget
      rw [← hstate]
      refine htotal ?_
      rcases hinto with ⟨rfl, _⟩ | ⟨rfl, _⟩ <;> exact hbudget
    constructor
    · rw [hstate]
      exact hrepresented.insert (hfits _ _ _ hsome) hbound
    · intro into' key' program' hsome'
      have hsame := hsome.symm.trans hsome'
      simp only [Option.some.injEq, Prod.mk.injEq] at hsame
      obtain ⟨rfl, rfl, rfl⟩ := hsame
      exact exact_of_counted hrepresented.toCounted hbound
  · constructor
    · rcases hstate with ⟨key, hits, hstate⟩ | ⟨misses, hstate⟩ | hstate
      · rw [hstate]
        exact (h.touch key).counters hits cache.misses
      · rw [hstate]
        exact h.counters cache.hits misses
      · rw [hstate]
        exact Represented.clear cache
    · intro into key program hsome
      rw [hnone] at hsome
      cases hsome

/-- The cache and the backend that commands lead to from an empty cache. -/
def reached (budget : Size) (ties : TieBreak) (backend : Backend) (commands : List Command) :
    Cache × Backend :=
  Run.final serve (ofBytes budget ties, backend) commands

theorem fits_of_insertion? {commands : List Command}
    (hbackend : ∀ received request program,
      backend.answer received request = .done program → program.Fits)
    (hcommands : ∀ key program, Command.insert key program ∈ commands → program.Fits)
    {state : Cache × Backend} (hanswer : state.2.answer = backend.answer) {command : Command}
    (hmem : command ∈ commands) {into : Cache}
    (hsome : command.insertion? state.1 state.2 = some (into, key, program)) : program.Fits := by
  rcases insertion?_eq_some hsome with ⟨_, rfl⟩ | ⟨_, request, hcompiled⟩
  · exact hcommands key program hmem
  · rw [hanswer] at hcompiled
    exact hbackend _ request program hcompiled

/-- The invariant of runs. -/
theorem represented_reached {budget : Size} {ties : TieBreak} {commands : List Command}
    (hbackend : ∀ received request program,
      backend.answer received request = .done program → program.Fits)
    (hcommands : ∀ key program, Command.insert key program ∈ commands → program.Fits)
    (htotal : budget.toNat = 2 ^ 64 - 1 →
      ∀ turn ∈ Run.turns serve (ofBytes budget ties, backend) commands,
        total turn.step.state.1.entries < 2 ^ 64) :
    (reached budget ties backend commands).1.budget = budget ∧
      (reached budget ties backend commands).2.answer = backend.answer ∧
        Represented (reached budget ties backend commands).1 := by
  refine Run.final_of_preserved (P := fun state : Cache × Backend =>
    state.1.budget = budget ∧ state.2.answer = backend.answer ∧ Represented state.1) ?_ ?_
  · exact ⟨rfl, rfl, Represented.clear (ofBytes budget ties)⟩
  · intro state turn hturn hstate hstep
    obtain ⟨hbudget, hanswer, hrepresented⟩ := hstate
    have hmem := Run.command_mem_of_mem_turns hturn
    have hsmall : state.1.budget.toNat = 2 ^ 64 - 1 →
        total (state.1.perform state.2 turn.command).state.1.entries < 2 ^ 64 := by
      intro hmax
      rw [hbudget] at hmax
      have hlt := htotal hmax turn hturn
      rwa [hstep] at hlt
    rw [hstep]
    refine ⟨(budget_perform _ _ _).trans hbudget, (answer_perform _ _ _).trans hanswer, ?_⟩
    exact (represented_perform hrepresented
      (fun _ _ _ => fits_of_insertion? hbackend hcommands hanswer hmem) hsmall).1

/-- Every run from an empty cache keeps the representation, and every insertion of it is
exact.  Texts have 64-bit lengths.  Under the largest budget the programs that are
stored at any one time have a 64-bit total as well. -/
theorem run_represented {budget : Size} {ties : TieBreak} {backend : Backend}
    {commands : List Command}
    (hbackend : ∀ received request program,
      backend.answer received request = .done program → program.Fits)
    (hcommands : ∀ key program, Command.insert key program ∈ commands → program.Fits)
    (htotal : budget.toNat = 2 ^ 64 - 1 →
      ∀ turn ∈ Run.turns serve (ofBytes budget ties, backend) commands,
        total turn.step.state.1.entries < 2 ^ 64) :
    (reached budget ties backend commands).1.budget = budget ∧
      Represented (reached budget ties backend commands).1 ∧
      ∀ before command after, commands = before ++ command :: after →
        ∀ into key program,
          command.insertion? (reached budget ties backend before).1
            (reached budget ties backend before).2 = some (into, key, program) →
          Exact into key program.size := by
  obtain ⟨hbudget, _, hrepresented⟩ := represented_reached hbackend hcommands htotal
  refine ⟨hbudget, hrepresented, ?_⟩
  intro before command after hsplit
  have hturns : Run.turns serve (ofBytes budget ties, backend) commands =
      Run.turns serve (ofBytes budget ties, backend) before ++
        Run.turns serve (reached budget ties backend before) (command :: after) := by
    rw [hsplit]
    exact Run.turns_append serve _ before (command :: after)
  -- The invariant holds before the command as well, at the end of a shorter run.
  have hbefore : ∀ key program, Command.insert key program ∈ before → program.Fits := by
    intro key program hmem
    refine hcommands key program ?_
    rw [hsplit]
    exact List.mem_append_left _ hmem
  have hbeforeTotal : budget.toNat = 2 ^ 64 - 1 →
      ∀ turn ∈ Run.turns serve (ofBytes budget ties, backend) before,
        total turn.step.state.1.entries < 2 ^ 64 := by
    intro hmax turn hturn
    refine htotal hmax turn ?_
    rw [hturns]
    exact List.mem_append_left _ hturn
  obtain ⟨hbudget, hanswer, hrepresented⟩ :=
    represented_reached hbackend hbefore hbeforeTotal
  have hmem : command ∈ commands := by
    rw [hsplit]
    exact List.mem_append_right _ List.mem_cons_self
  refine (represented_perform hrepresented
    (fun _ _ _ => fits_of_insertion? hbackend hcommands hanswer hmem) ?_).2
  intro hmax
  rw [hbudget] at hmax
  refine htotal hmax ⟨command, serve (reached budget ties backend before) command⟩ ?_
  rw [hturns]
  exact List.mem_append_right _ List.mem_cons_self

theorem run_represented_replacing :
    let request : Request :=
      { name := "k", source := "s", variant := 0, includeFlags := ["-I/"], device := 0 }
    Represented (reached 0xFFFFFFFFFFFFFFFF .oldest (.constant "abc")
      [.insert ⟨.replicate 32 0⟩ { ptx := "ab", device := 0, variant := 0 },
        .insert ⟨.replicate 32 0⟩ { ptx := "abcd", device := 1, variant := 7 },
        .getOrCompile request]).1 := by
  intro request
  refine (run_represented ?_ ?_ ?_).2.1
  · intro received request program hanswer
    cases hanswer
    show "abc".utf8ByteSize < 2 ^ 64
    decide
  · intro key program hmem
    simp only [List.mem_cons, Command.insert.injEq, List.not_mem_nil, or_false] at hmem
    rcases hmem with ⟨_, rfl⟩ | ⟨_, rfl⟩ | hmem
    · show "ab".utf8ByteSize < 2 ^ 64
      decide
    · show "abcd".utf8ByteSize < 2 ^ 64
      decide
    · cases hmem
  · intro _
    decide +kernel

end Cache
end KernelJit
