/-
What is put out to make room for a program.

`MakesRoom` says it for an insertion of so many bytes, with the counts of requests and not with
the numbers in the entries: no entry stays that was asked for less than a victim, no more go
than have to, and afterwards the program fits or no entry is left.  `Stores` says what the
insertion leaves behind.  The loop of victims is known from `Evicts`, the counts from `Tracked`,
and that the size of the cache is the sum over its entries from `Represented`.

A program that is larger than the budget is stored all the same, and the entry that it
replaces is among the candidates.  So `enough` speaks of the entries that are left before the
program takes its place.
-/
import KernelJit.Proofs.Cache.Uses

namespace KernelJit
namespace Cache

/-- The entries that are put out on the way. -/
def putOut (entries : List Entry) (trace : List Event) : List Entry :=
  entries.filter fun entry => Event.evicted entry.key ∈ trace

/-- The entries that are not. -/
def left (entries : List Entry) (trace : List Event) : List Entry :=
  entries.filter fun entry => Event.evicted entry.key ∉ trace

/-- Room for a number of bytes is made at the cost of the entries that were asked for least, and
of no more of them than it takes. -/
structure MakesRoom (asked : Entry → Nat) (budget bytes : Nat) (entries : List Entry)
    (trace : List Event) : Prop where
  least : ∀ gone ∈ putOut entries trace, ∀ other ∈ left entries trace, asked gone ≤ asked other
  spared : total entries + bytes ≤ budget → putOut entries trace = []
  needed : putOut entries trace ≠ [] → ∃ gone ∈ putOut entries trace,
    (∀ other ∈ putOut entries trace, asked other ≤ asked gone) ∧
      budget < total (left entries trace) + gone.size.toNat + bytes
  enough : total (left entries trace) + bytes ≤ budget ∨ left entries trace = []

/-- A request asks for what a command stores: it has the key, or the command is a request
with the same source, variant and flags. -/
def Repeats (command : Command) (key : Fingerprint) (request : Request) : Prop :=
  Fingerprint.ofRequest request = key ∨
    ∃ first, command = .getOrCompile first ∧ request.source = first.source ∧
      request.variant = first.variant ∧ request.includeFlags = first.includeFlags

/-- A command stores a program as an entry, beside those that it leaves or in place of one of
them.  The entry has been asked for once.  Its program is the answer, and it is what a repeated
request gets from the cache. -/
structure Stores (turns : List (Turn Command (Cache × Backend) Reply)) (command : Command)
    (step : Step (Cache × Backend) Reply) (key : Fingerprint) (program : Program)
    (rest : List Entry) (entry : Entry) : Prop where
  entries : step.state.1.entries = rest.filter (·.key ≠ key) ++ [entry]
  found : step.state.1.find? key = some entry
  value : entry.program.value = program.tag key
  uses : entry.uses = 1
  asked : requested (turns ++ [⟨command, step⟩]) entry = 1
  answer : step.result.program? = some entry.program
  again : ∀ request, Repeats command key request →
    serve step.state (.getOrCompile request) =
      { result := .compiled (.done entry.program)
        state := (step.state.1.served key, step.state.2)
        trace := [.cacheHit request.name key] }

/-! ## Reading the trace -/

section

variable {size : Size} {cache after : Cache} {gone : List Entry} {trace : List Event}

theorem mem_putOut_iff (h : Evicts size cache gone after) (hkeys : cache.Distinct)
    (htrace : ∀ key, Event.evicted key ∈ trace ↔ ∃ entry ∈ gone, entry.key = key)
    {entry : Entry} : entry ∈ putOut cache.entries trace ↔ entry ∈ gone := by
  rw [putOut, List.mem_filter, decide_eq_true_eq, htrace]
  constructor
  · rintro ⟨hmem, other, hother, hkey⟩
    have hthere := h.mem other (List.mem_append_left _ hother)
    exact List.inj_on_of_nodup_map hkeys hthere hmem hkey ▸ hother
  · exact fun hmem => ⟨h.mem entry (List.mem_append_left _ hmem), entry, hmem, rfl⟩

theorem left_eq (h : Evicts size cache gone after)
    (htrace : ∀ key, Event.evicted key ∈ trace ↔ ∃ entry ∈ gone, entry.key = key) :
    left cache.entries trace = after.entries := by
  rw [left, h.entries]
  refine List.filter_congr fun entry _ => decide_eq_decide.mpr ?_
  rw [htrace]
  constructor
  · exact fun hnone other hother hkey => hnone ⟨other, hother, hkey.symm⟩
  · exact fun hall ⟨other, hother, hkey⟩ => hall other hother hkey.symm

end

/-! ## One insertion -/

variable {cache : Cache} {turns : List (Turn Command (Cache × Backend) Reply)}

theorem Tracked.toNat_uses (h : Tracked cache turns) {entry : Entry}
    (hmem : entry ∈ cache.entries) (hcount : requested turns entry < 2 ^ 64) :
    entry.uses.toNat = requested turns entry := by
  rw [h.uses entry hmem, UInt64.toNat_ofNat']
  exact Nat.mod_eq_of_lt hcount

theorem fits_of_total_le (h : Counted cache) {size : Size}
    (hle : total cache.entries + size.toNat ≤ cache.budget.toNat) : cache.fits size = true := by
  refine decide_eq_true (UInt64.le_iff_toNat_le.mpr ?_)
  rw [Size.toNat_add, h.size]
  omega

theorem total_makeRoom_le (h : Counted cache) {size : Size}
    (hsum : cache.budget.toNat = 2 ^ 64 - 1 → total cache.entries + size.toNat < 2 ^ 64) :
    total (cache.makeRoom size).1.entries + size.toNat ≤ cache.budget.toNat ∨
      (cache.makeRoom size).1.entries = [] := by
  have hbudget : (cache.makeRoom size).1.budget = cache.budget := budget_evictUpTo cache size _
  by_cases hmax : cache.budget.toNat = 2 ^ 64 - 1
  · -- Under the largest budget everything fits, so that nothing is put out.
    left
    have hle : total cache.entries + size.toNat ≤ cache.budget.toNat := by
      have hlt := hsum hmax
      omega
    rw [makeRoom, evictUpTo_of_fits (fits_of_total_le h hle)]
    exact hle
  · rcases makeRoom_fits_or_empty cache size with hfits | hempty
    · left
      have hlt := cache.budget.toNat_lt
      have hroomy : Counted (cache.makeRoom size).1 := h.evictUpTo size _
      have hle := toNat_add_le_of_fits hfits (by rw [hbudget]; omega)
      rwa [hroomy.size, hbudget] at hle
    · exact Or.inr hempty

/-- Room is made as it should be for any program, if no number is too large for its counter. -/
theorem makesRoom_of_evicts {size : Size} {gone : List Entry} (hcounted : Counted cache)
    (htracked : Tracked cache turns)
    (hcounts : ∀ entry ∈ cache.entries, requested turns entry < 2 ^ 64)
    (hsum : cache.budget.toNat = 2 ^ 64 - 1 → total cache.entries + size.toNat < 2 ^ 64)
    (hevicts : Evicts size cache gone (cache.makeRoom size).1) {trace : List Event}
    (htrace : ∀ key, Event.evicted key ∈ trace ↔ ∃ entry ∈ gone, entry.key = key) :
    MakesRoom (requested turns) cache.budget.toNat size.toNat cache.entries trace := by
  have hleft := left_eq hevicts htrace
  have hgone : ∀ {entry}, entry ∈ putOut cache.entries trace → entry ∈ gone :=
    (mem_putOut_iff hevicts htracked.keys htrace).mp
  have huses : ∀ entry ∈ gone ++ (cache.makeRoom size).1.entries,
      entry.uses.toNat = requested turns entry := by
    intro entry hmem
    have hthere := hevicts.mem entry hmem
    exact htracked.toNat_uses hthere (hcounts entry hthere)
  constructor
  · intro entry hentry other hother
    rw [hleft] at hother
    have hle := UInt64.le_iff_toNat_le.mp (hevicts.uses_le (hgone hentry) hother)
    rwa [huses entry (List.mem_append_left _ (hgone hentry)),
      huses other (List.mem_append_right _ hother)] at hle
  · intro hle
    have hnone := hevicts.gone_eq_nil (fits_of_total_le hcounted hle)
    exact List.eq_nil_iff_forall_not_mem.mpr fun entry hentry =>
      List.ne_nil_of_mem (hgone hentry) hnone
  · intro hsome
    obtain ⟨first, hfirst⟩ := List.exists_mem_of_ne_nil _ hsome
    obtain ⟨last, hlast, hmost, hover⟩ :=
      hevicts.overflow hcounted (List.ne_nil_of_mem (hgone hfirst))
    refine ⟨last, (mem_putOut_iff hevicts htracked.keys htrace).mpr hlast, ?_, hleft ▸ hover⟩
    intro other hother
    have hle := UInt64.le_iff_toNat_le.mp (hmost other (hgone hother))
    rwa [huses other (List.mem_append_left _ (hgone hother)),
      huses last (List.mem_append_left _ hlast)] at hle
  · rw [hleft]
    exact total_makeRoom_le hcounted hsum

/-! ## One command -/

section

variable {state : Cache × Backend} {command : Command} {into : Cache} {key : Fingerprint}
  {program : Program}

theorem exists_evicts_serve
    (hinsertion : command.insertion? state.1 state.2 = some (into, key, program)) :
    ∃ gone, Evicts program.size into gone (into.makeRoom program.size).1 ∧
      ∀ key, Event.evicted key ∈ (serve state command).trace ↔ ∃ entry ∈ gone, entry.key = key := by
  obtain ⟨_, _, _, _, before, hbefore, htrace⟩ := serve_of_insertion? hinsertion
  obtain ⟨gone, hevicts, hgone⟩ := evicts_makeRoom into program.size
  have hinsert : (into.insert key program).trace = gone.map fun entry => .evicted entry.key :=
    hgone
  refine ⟨gone, hevicts, fun key => ?_⟩
  rw [htrace, hinsert, List.mem_append, List.mem_map]
  constructor
  · rintro (hquiet | ⟨entry, hmem, heq⟩)
    · cases hbefore _ hquiet
    · exact ⟨entry, hmem, Event.evicted.inj heq⟩
  · rintro ⟨entry, hmem, rfl⟩
    exact Or.inr ⟨entry, hmem, rfl⟩

theorem makesRoom_serve (hcounted : Counted state.1) (htracked : Tracked state.1 turns)
    (hinsertion : command.insertion? state.1 state.2 = some (into, key, program))
    (hcounts : ∀ entry ∈ state.1.entries, requested turns entry < 2 ^ 64)
    (hsum : state.1.budget.toNat = 2 ^ 64 - 1 →
      total state.1.entries + program.size.toNat < 2 ^ 64) :
    MakesRoom (requested turns) state.1.budget.toNat program.size.toNat state.1.entries
      (serve state command).trace := by
  obtain ⟨gone, hevicts, htrace⟩ := exists_evicts_serve hinsertion
  rcases (serve_of_insertion? hinsertion).1 with rfl | rfl
  · exact makesRoom_of_evicts hcounted htracked hcounts hsum hevicts htrace
  · have hmissed : Counted state.1.missed := ⟨hcounted.keys, hcounted.size⟩
    exact makesRoom_of_evicts hmissed (htracked.counters _ _) hcounts hsum hevicts htrace

theorem ofRequest_of_repeats {request : Request}
    (hinsertion : command.insertion? state.1 state.2 = some (into, key, program))
    (h : Repeats command key request) : Fingerprint.ofRequest request = key := by
  rcases h with hkey | ⟨first, rfl, hsource, hvariant, hflags⟩
  · exact hkey
  · have hfirst : Fingerprint.ofRequest first = key := by
      rw [Command.insertion?] at hinsertion
      split at hinsertion
      · exact congrArg (·.2.1) (Option.some.inj hinsertion)
      · cases hinsertion
    -- The key is made of these three fields and of nothing else.
    have hpreimage : Fingerprint.preimage request = Fingerprint.preimage first := by
      rw [Fingerprint.preimage, hsource, hvariant, hflags]
      rfl
    rw [Fingerprint.ofRequest, hpreimage]
    exact hfirst

theorem stores_serve (htracked : Tracked state.1 turns)
    (hinsertion : command.insertion? state.1 state.2 = some (into, key, program)) :
    ∃ entry, Stores turns command (serve state command) key program
      (left state.1.entries (serve state command).trace) entry := by
  obtain ⟨hinto, hreused, hstate, hanswer, _⟩ := serve_of_insertion? hinsertion
  obtain ⟨gone, hevicts, htrace⟩ := exists_evicts_serve hinsertion
  have hentries : into.entries = state.1.entries := by rcases hinto with rfl | rfl <;> rfl
  have hstored : into.stored = state.1.stored := by rcases hinto with rfl | rfl <;> rfl
  have hfind : (serve state command).state.1.find? key =
      some (Entry.fresh key program into.stored) := by
    rw [hstate]
    exact find?_insert into key program
  refine ⟨Entry.fresh key program into.stored, ?_, hfind, rfl, rfl, ?_, ?_, ?_⟩
  · rw [← hentries, left_eq hevicts htrace, hstate, insert_state, stored_makeRoom]
    rfl
  · refine requested_eq_one fun turn hturn program' hprogram => ?_
    rcases List.mem_append.mp hturn with hbefore | hlast
    · have hlt := htracked.taken turn hbefore program' hprogram
      exact Nat.ne_of_lt (hstored ▸ hlt)
    · rw [List.mem_singleton.mp hlast, hreused] at hprogram
      cases hprogram
  · rw [hanswer, insert_result]
    rfl
  · intro request hrepeats
    have hkey := ofRequest_of_repeats hinsertion hrepeats
    rw [serve_getOrCompile, getOrCompile_of_hit (hkey ▸ hfind), hkey]
    rfl

end

/-! ## Runs -/

/-- A cache that any run has led to makes room for a program at the cost of the entries that
were asked for least on that run, however ties are broken, and it stores the program.  Texts
have 64-bit lengths and counts are 64-bit numbers.  Under the largest budget, the entries have a
64-bit size at any time of the run, and with the new program beside them. -/
theorem least_used_put_out {budget : Size} {ties : TieBreak} {backend : Backend}
    {commands : List Command} {command : Command} {into : Cache} {key : Fingerprint}
    {program : Program}
    (hbackend : ∀ received request program,
      backend.answer received request = .done program → program.Fits)
    (hcommands : ∀ key program, Command.insert key program ∈ commands ++ [command] →
      program.Fits)
    (htotal : budget.toNat = 2 ^ 64 - 1 →
      ∀ turn ∈ Run.turns serve (ofBytes budget ties, backend) commands,
        total turn.step.state.1.entries < 2 ^ 64)
    (hinsertion : command.insertion? (reached budget ties backend commands).1
      (reached budget ties backend commands).2 = some (into, key, program))
    (hsum : budget.toNat = 2 ^ 64 - 1 →
      total (reached budget ties backend commands).1.entries + program.ptx.utf8ByteSize < 2 ^ 64)
    (hcounts : ∀ entry ∈ (reached budget ties backend commands).1.entries,
      requested (Run.turns serve (ofBytes budget ties, backend) commands) entry < 2 ^ 64) :
    let state := reached budget ties backend commands
    let turns := Run.turns serve (ofBytes budget ties, backend) commands
    let step := serve state command
    (∀ entry ∈ state.1.entries, entry.uses.toNat = requested turns entry ∧
      entry.size.toNat = entry.program.value.ptx.utf8ByteSize) ∧
    MakesRoom (requested turns) budget.toNat program.ptx.utf8ByteSize state.1.entries step.trace ∧
      ∃ entry, Stores turns command step key program (left state.1.entries step.trace) entry := by
  have hbefore : ∀ key program, Command.insert key program ∈ commands → program.Fits :=
    fun key program hmem => hcommands key program (List.mem_append_left _ hmem)
  obtain ⟨hbudget, hanswer, hrepresented⟩ := represented_reached hbackend hbefore htotal
  have htracked := tracked_reached budget ties backend commands
  have hfits : program.Fits :=
    fits_of_insertion? hbackend hcommands hanswer (List.mem_append_right _ List.mem_cons_self)
      hinsertion
  refine ⟨?_, ?_, stores_serve htracked hinsertion⟩
  · intro entry hmem
    exact ⟨htracked.toNat_uses hmem (hcounts entry hmem), (hrepresented.entry entry hmem).1⟩
  · have hroom := makesRoom_serve hrepresented.toCounted htracked hinsertion hcounts
      (by rwa [hbudget, hfits.toNat_size])
    rwa [hbudget, hfits.toNat_size] at hroom

/-- Two of three entries go.  The third was asked for once more, and stays. -/
theorem least_used_put_out_two :
    let program (ptx : String) : Program := { ptx, device := 0, variant := 0 }
    let commands : List Command :=
      [.insert ⟨.replicate 32 1⟩ (program "aa"), .insert ⟨.replicate 32 2⟩ (program "bb"),
        .insert ⟨.replicate 32 3⟩ (program "cc"), .get ⟨.replicate 32 2⟩]
    let command : Command := .insert ⟨.replicate 32 4⟩ (program "ddddd")
    let state := reached 8 (fun n => n + 1) (.constant "abc") commands
    let turns := Run.turns serve (ofBytes 8 fun n => n + 1, .constant "abc") commands
    let step := serve state command
    MakesRoom (requested turns) 8 5 state.1.entries step.trace ∧
      (putOut state.1.entries step.trace).map (·.key) =
        [⟨.replicate 32 1⟩, ⟨.replicate 32 3⟩] ∧
      ∃ entry, Stores turns command step ⟨.replicate 32 4⟩ (program "ddddd")
        (left state.1.entries step.trace) entry := by
  intro program commands command state turns step
  have hbackend : ∀ received request program,
      (Backend.constant "abc").answer received request = .done program → program.Fits := by
    intro received request program hanswer
    cases hanswer
    show "abc".utf8ByteSize < 2 ^ 64
    decide
  have hcommands : ∀ key program, Command.insert key program ∈ commands ++ [command] →
      program.Fits := by
    intro key program hmem
    simp only [commands, command, List.mem_append, List.mem_cons, Command.insert.injEq,
      reduceCtorEq, List.not_mem_nil, or_false] at hmem
    rcases hmem with (⟨_, rfl⟩ | ⟨_, rfl⟩ | ⟨_, rfl⟩) | ⟨_, rfl⟩ <;>
      · show String.utf8ByteSize _ < 2 ^ 64
        decide
  have hsmall : ¬(8 : Size).toNat = 2 ^ 64 - 1 := by decide
  have hinsertion : command.insertion? state.1 state.2 =
      some (state.1, ⟨.replicate 32 4⟩, program "ddddd") := rfl
  have hcounts : ∀ entry ∈ state.1.entries, requested turns entry < 2 ^ 64 := by decide +kernel
  obtain ⟨_, hroom, hstores⟩ := least_used_put_out hbackend hcommands
    (fun hmax => absurd hmax hsmall) hinsertion (fun hmax => absurd hmax hsmall) hcounts
  exact ⟨hroom, by decide +kernel, hstores⟩

end Cache
end KernelJit
