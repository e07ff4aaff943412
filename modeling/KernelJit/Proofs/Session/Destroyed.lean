/-
Destroyed handles, and for how long they stay dead.

A dead handle names no context: whatever is done with it is refused, and it changes
nothing.  A handle is dead from the moment that it is destroyed, and no new context gets it,
until its slot has been emptied 2^32 times, its own destruction included.  Then the 32-bit
generation of the slot is back where it was, the next context in the slot is issued the same
handle, and whoever has kept the handle reaches that context.  The same happens at every
multiple of 2^32 and at no other time (`destroyed_dead_iff`), and runs that long exist
(`destroyed_handle_returns`).
-/
import KernelJit.Proofs.Handle.Recycle
import KernelJit.Proofs.Session.Thread

namespace KernelJit

/-! ## Dead handles -/

namespace Session

variable {session : Session} {handle : Handle}

/-- A handle with which nothing is reached and nothing changed. -/
structure Dead (session : Session) (handle : Handle) : Prop where
  isLive : session.isLive handle = false
  compile : ∀ source name,
    session.compile handle source name = .unchanged session (.failed .invalidHandle)
  compileIn : ∀ env source name,
    session.compileIn handle env source name = .unchanged session (.failed .invalidHandle)
  lookup : ∀ name, session.lookup handle name = .error .invalidHandle
  withContext : ∀ {α : Type} (borrower : Session × Context → Step (Session × Context) α),
    session.withContext handle borrower = .unchanged session (.error .invalidHandle)
  destroy : ∀ device, (session.destroy handle device).state = session

theorem dead_iff {parts : Nat × UInt32} (hparts : handle.parts? = some parts) :
    session.Dead handle ↔ ¬∃ context, session.contexts.get handle = .ok context := by
  constructor
  · intro h hfound
    have hlive := isLive_eq_true_iff.mpr hfound
    rw [h.isLive] at hlive
    cases hlive
  · intro h
    have hget : session.contexts.get handle = .error .invalidHandle :=
      HandleTable.get_eq_invalidHandle hparts fun context hok => h ⟨context, hok⟩
    have hnull : handle ≠ Handle.null := by
      intro hnull
      rw [hnull, Handle.parts?_null] at hparts
      cases hparts
    constructor
    · exact isLive_of_error hget
    · exact fun source name => compileIn_of_error hget _ source name
    · exact fun env source name => compileIn_of_error hget env source name
    · intro name
      unfold lookup view
      rw [hget]
    · exact fun borrower => withContext_of_error hget borrower
    · intro device
      rw [destroy_of_error hnull hget]

end Session

/-! ## The age of a slot along a run -/

namespace Thread

variable {ρ : Type} {settings : Settings} {ties : TieBreak} {handle : Handle}

/-- In a run with room for all contexts the table stays sound, and the age of a slot counts
the handles of the slot that are ended, up to multiples of 2^32. -/
theorem age_reached (start : Thread) {acts : List (Act ρ)} (hsound : start.session.contexts.Sound)
    (hroom : ∀ first, first <+: acts →
      (Run.final perform start first).session.contexts.size < 0xffffffff) :
    (Run.final perform start acts).session.contexts.Sound ∧
      ∀ index, (Run.final perform start acts).session.contexts.age index =
        (start.session.contexts.age index + endings index start acts) % 0x100000000 := by
  -- The run grows at its end, where the new act ends one more handle or none.
  induction acts using List.reverseRecOn with
  | nil =>
    refine ⟨hsound, fun index => ?_⟩
    exact (Nat.mod_eq_of_lt (HandleTable.age_lt _ index)).symm
  | append_singleton acts act ih =>
    obtain ⟨htable, hage⟩ := ih fun first hstart => hroom first (hstart.trans (List.prefix_append _ _))
    have hfull := hroom _ List.prefix_rfl
    rw [Run.final_append] at hfull ⊢
    have hchange := change_perform (Run.final perform start acts) act
    refine ⟨hchange.sound htable hfull, fun index => ?_⟩
    have hlast := hchange.age_mod htable index
    rw [hage] at hlast
    rw [endings_concat, ← Nat.add_assoc]
    exact hlast.trans (Nat.mod_add_mod _ _ _)

/-! ## After a handle has been destroyed -/

/-- An act that ends a handle leaves the slot of the handle one generation older than it. -/
theorem age_of_ended {thread : Thread} {act : Act ρ} (hsound : thread.session.contexts.Sound)
    (hended : thread.ended? act = some handle) :
    ∃ index generation, handle.parts? = some (index, generation) ∧
      (thread.perform act).state.session.contexts.age index =
        (generation.toNat + 1) % 0x100000000 := by
  have hchange := change_perform thread act
  have hage := hchange.age_mod hsound
  rw [hended] at hchange hage
  generalize (thread.perform act).state.session.contexts = contexts at hchange hage
  cases hchange with
  | @without _ _ index generation _ hparts hslot =>
    refine ⟨index, generation, hparts, ?_⟩
    rw [hage, HandleTable.slotOf_of_parts hparts, if_pos rfl, HandleTable.age_of_slot hslot]

/-- In a run with room for all contexts a handle that has been ended is dead, unless there is a
context in its slot and the slot has been emptied a multiple of 2^32 times since the handle
was issued.  A new context is issued the handle exactly if it comes into the slot after so
many times. -/
theorem destroyed_dead_iff {before after : List (Act ρ)} {ending : Act ρ}
    (hroom : ∀ first, first <+: before ++ ending :: after →
      (Run.final perform (fresh settings ties) first).session.contexts.size < 0xffffffff)
    (hended : (Run.final perform (fresh settings ties) before).ended? ending = some handle) :
    ∃ index generation, handle.parts? = some (index, generation) ∧
      let gone := Run.final perform (fresh settings ties) (before ++ [ending])
      let later := (Run.final perform gone after).session
      let emptied := 1 + endings index gone after
      (later.Dead handle ↔ ¬(later.contexts.Occupied index ∧ 0x100000000 ∣ emptied)) ∧
      (∀ device, (later.create device).result = handle ↔
        HandleTable.slotOf (some (later.create device).result) = some index ∧
          0x100000000 ∣ emptied) ∧
      (∀ device options backend, (later.createWith device options backend).result = handle ↔
        HandleTable.slotOf (some (later.createWith device options backend).result) = some index ∧
          0x100000000 ∣ emptied) := by
  have hsplit : before ++ ending :: after = (before ++ [ending]) ++ after := by
    rw [List.append_assoc, List.singleton_append]
  rw [hsplit] at hroom
  have hprefix : before ++ [ending] <+: (before ++ [ending]) ++ after := List.prefix_append _ _
  obtain ⟨hbefore, _⟩ := age_reached (fresh settings ties) HandleTable.sound_empty
    fun first hfirst => hroom first (hfirst.trans ((List.prefix_append _ _).trans hprefix))
  obtain ⟨hgone, _⟩ := age_reached (fresh settings ties) HandleTable.sound_empty
    fun first hfirst => hroom first (hfirst.trans hprefix)
  obtain ⟨index, generation, hparts, hold⟩ := age_of_ended hbefore hended
  refine ⟨index, generation, hparts, ?_⟩
  intro gone later emptied
  have hroomAfter : ∀ first, first <+: after →
      (Run.final perform gone first).session.contexts.size < 0xffffffff := by
    intro first hfirst
    have hfull := hroom _ ((List.prefix_append_right_inj (before ++ [ending])).mpr hfirst)
    rwa [Run.final_append] at hfull
  obtain ⟨hlater, hage⟩ := age_reached gone hgone hroomAfter
  have hstep : gone = ((Run.final perform (fresh settings ties) before).perform ending).state :=
    Run.final_append _ _ _ _
  rw [← hstep] at hold
  -- The slot is as old as the handle exactly if the count has come round.
  have hround : later.contexts.age index = generation.toNat ↔ 0x100000000 ∣ emptied := by
    have hlt := generation.toNat_lt
    have hcount : later.contexts.age index = _ := hage index
    rw [hcount, hold]
    omega
  refine ⟨?_, ?_, ?_⟩
  · rw [Session.dead_iff hparts, HandleTable.exists_get_iff hparts, hround]
  · intro device
    rw [← hround]
    exact HandleTable.insert_eq_iff hlater _ hparts
  · intro device options backend
    rw [← hround]
    exact HandleTable.insert_eq_iff hlater _ hparts

/-- The slot of a destroyed handle is used again, under another handle. -/
theorem destroyed_dead_iff_reused :
    let before : List (Act Unit) := [.call (.create 0)]
    let after : List (Act Unit) := [.call (.create 0)]
    let gone := Run.final perform (fresh .empty .oldest) (before ++ [.call (.destroy 1 0)])
    let later := (Run.final perform gone after).session
    later.Dead 1 ∧ (later.create 0).result ≠ 1 ∧ later.isLive 0x100000001 = true := by
  intro before after gone later
  have hroom : ∀ first, first <+: before ++ .call (.destroy 1 0) :: after →
      (Run.final perform (fresh .empty .oldest) first).session.contexts.size < 0xffffffff := by
    intro first hfirst
    have hall : ∀ first ∈ (before ++ .call (.destroy 1 0) :: after).inits,
        (Run.final perform (fresh .empty .oldest) first).session.contexts.size < 0xffffffff := by
      decide +kernel
    exact hall first ((List.mem_inits _ _).mpr hfirst)
  obtain ⟨index, _, _, hdead, hcreate, _⟩ := destroyed_dead_iff hroom rfl
  have hcount : ¬0x100000000 ∣ 1 + endings index gone after := by
    have hle : endings index gone after ≤ _ := List.countP_le_length
    rw [Run.length_stages] at hle
    have hafter : after.length = 1 := rfl
    omega
  refine ⟨hdead.mpr fun h => hcount h.2, ?_, by decide +kernel⟩
  rw [Ne, hcreate 0]
  exact fun h => hcount h.2

/-! ## A handle that returns -/

/-- Create a context in the first slot, in a generation of the slot, and destroy it. -/
def recycle (generation : Nat) : List (Act Unit) :=
  [.call (.create 0), .call (.destroy (Handle.pack 0 (UInt32.ofNat generation)) 0)]

/-- Recycle the first slot `n` times, from a generation on. -/
def recycles (generation n : Nat) : List (Act Unit) :=
  (List.range' generation n).flatMap recycle

theorem final_recycle {session : Session} {generation : Nat}
    (h : session.contexts.Next 0 (UInt32.ofNat generation)) :
    Run.final perform { session } (recycle generation) =
      { session := { session with contexts := session.contexts.worn 1 } } := by
  let context : Context := .create 0 {} .disabled session.ties
  let filled : Session := { session with contexts := (session.contexts.insert context).2 }
  have hmade : (perform { session } (.call (.create 0) : Act Unit)).state =
      { session := filled } := rfl
  have hget : filled.contexts.get (Handle.pack 0 (UInt32.ofNat generation)) = .ok context :=
    h.get_insert context
  obtain ⟨index, own, hparts, _, hdestroy⟩ := Session.destroy_of_ok hget 0
  cases (Handle.parts?_pack h.room (UInt32.ofNat generation)).symm.trans hparts
  show (perform _ (.call (.destroy _ 0) : Act Unit)).state = _
  rw [hmade, perform_call_of_not_blocks rfl]
  show ({ session := (filled.destroy _ 0).state } : Thread) = _
  rw [hdestroy]
  dsimp only [filled]
  rw [h.insert_without]

theorem final_recycles {session : Session} {generation : Nat}
    (h : session.contexts.Next 0 (UInt32.ofNat generation)) (n : Nat) :
    Run.final perform { session } (recycles generation n) =
      { session := { session with contexts := session.contexts.worn n } } := by
  induction n generalizing session generation with
  | zero =>
    rw [h.worn_zero]
    rfl
  | succ n ih =>
    have hnext := h.worn 1
    rw [← UInt32.ofNat_add] at hnext
    unfold recycles
    rw [List.range'_succ, List.flatMap_cons, Run.final_append, final_recycle h]
    refine (ih hnext).trans ?_
    dsimp only
    rw [h.worn_worn, Nat.add_comm]

/-- A thread with one slot that has been vacated. -/
def vacated (generation : UInt32) : Thread :=
  { session := { contexts := { slots := [⟨generation, none⟩], vacant := [0] } } }

theorem destroyed_handle_returns :
    let made := (fresh .empty .oldest).perform (.call (.create 0) : Act Unit)
    let gone := (made.state.perform (.call (.destroy 1 0) : Act Unit)).state
    let later := Run.final perform gone (recycles 1 0xffffffff)
    let again := later.perform (.call (.create 0) : Act Unit)
    made.result = .replied (.issued 1) ∧
      made.state.ended? (.call (.destroy 1 0) : Act Unit) = some 1 ∧
      again.result = .replied (.issued 1) ∧ again.state.session.isLive 1 = true := by
  intro made gone later again
  have hnext : (vacated 1).session.contexts.Next 0 (UInt32.ofNat 1) := ⟨rfl, rfl, by decide⟩
  have hlater : later = vacated 0 := by
    refine (final_recycles hnext 0xffffffff).trans ?_
    rw [hnext.worn_eq, show UInt32.ofNat 1 + UInt32.ofNat 0xffffffff = 0 by decide]
    rfl
  have hagain : again = (vacated 0).perform (.call (.create 0) : Act Unit) := by
    rw [← hlater]
  rw [hagain]
  exact ⟨rfl, rfl, rfl, rfl⟩

end Thread
end KernelJit
