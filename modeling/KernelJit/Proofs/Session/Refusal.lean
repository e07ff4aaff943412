/-
Which handles are refused, and with which failure.

The test for the null handle looks at the low half of the number alone, since the low half
is what names a slot.  So null is what is reported for every multiple of 2^32, not for zero
alone, and any other number is reported as invalid exactly if its halves do not name a slot
with an object (`get_eq_nullHandle_iff`, `get_eq_invalidHandle_iff`).  Removing fails as
looking up does.  A session passes on what the table reports, up to the foreign callers, and
adds no null of its own unless the backend answers one (`refused_by_low_half`).
-/
import KernelJit.Proofs.Context.Verdict
import KernelJit.Proofs.Session.Foreign

namespace KernelJit

/-! ## Halves -/

namespace Handle

/-- The low half of a handle's number. -/
def low (handle : Handle) : Nat :=
  handle.toNat % 0x100000000

theorem parts?_eq_none_iff {handle : Handle} : handle.parts? = none ↔ handle.low = 0 := by
  have hlow : handle.toUInt32.toNat = handle.low := UInt64.toNat_toUInt32 handle
  rw [← hlow, parts?]
  by_cases hzero : handle.toUInt32 = 0
  · rw [if_pos hzero, hzero]
    exact iff_of_true rfl rfl
  · rw [if_neg hzero]
    refine iff_of_false (fun h => ?_) fun h => hzero (UInt32.toNat_inj.mp h)
    cases h

/-- A number with these halves has these parts. -/
theorem parts?_of_toNat {handle : Handle} {index : Nat} {generation : UInt32}
    (hindex : index < 0xffffffff)
    (h : handle.toNat = generation.toNat * 0x100000000 + (index + 1)) :
    handle.parts? = some (index, generation) := by
  have hparts := parts?_pack_ofNat hindex generation
  have hsame : handle = pack (UInt32.ofNat index) generation :=
    UInt64.toNat_inj.mp (h.trans (toNat_of_parts? hparts).2.symm)
  rw [hsame]
  exact hparts

end Handle

/-! ## Tables -/

namespace HandleTable

variable {α : Type} {table : HandleTable α} {handle : Handle} {failure : Failure}

/-- The halves of a handle's number name a slot, in the generation that it is in, and there is
an object in it. -/
def Live (table : HandleTable α) (handle : Handle) : Prop :=
  ∃ (index : Nat) (generation : UInt32) (object : α), index < 0xffffffff ∧
    handle.toNat = generation.toNat * 0x100000000 + (index + 1) ∧
    table.slots[index]? = some ⟨generation, some object⟩

theorem live_iff_get : table.Live handle ↔ ∃ object, table.get handle = .ok object := by
  constructor
  · intro h
    obtain ⟨index, generation, object, hindex, hnumber, hslot⟩ := h
    exact ⟨object, get_eq_ok_iff.mpr
      ⟨index, generation, Handle.parts?_of_toNat hindex hnumber, hslot⟩⟩
  · intro h
    obtain ⟨object, hget⟩ := h
    obtain ⟨index, generation, hparts, hslot⟩ := get_eq_ok_iff.mp hget
    obtain ⟨hindex, hnumber⟩ := Handle.toNat_of_parts? hparts
    exact ⟨index, generation, object, hindex, hnumber, hslot⟩

theorem get_eq_nullHandle_iff : table.get handle = .error .nullHandle ↔ handle.low = 0 := by
  rw [← Handle.parts?_eq_none_iff, get]
  cases handle.parts? with
  | none => simp
  | some parts =>
    dsimp only
    cases table.occupant? parts.1 parts.2 <;> simp

theorem get_eq_invalidHandle_iff :
    table.get handle = .error .invalidHandle ↔ handle.low ≠ 0 ∧ ¬table.Live handle := by
  rw [live_iff_get, Ne, ← Handle.parts?_eq_none_iff, get]
  cases handle.parts? with
  | none => simp
  | some parts =>
    dsimp only
    cases table.occupant? parts.1 parts.2 <;> simp

theorem remove_eq_error_iff : table.remove handle = .error failure ↔
    table.get handle = .error failure := by
  cases hget : table.get handle with
  | error reported => rw [remove_of_get_error hget, Except.error.injEq, Except.error.injEq]
  | ok object =>
    obtain ⟨_, _, _, _, hremove⟩ := remove_of_get_ok hget
    rw [hremove]
    exact iff_of_false nofun nofun

/-- How a table refuses a handle if null is what it reports under some condition: otherwise the
handle is invalid unless it is live. -/
structure Refuses (table : HandleTable α) (handle : Handle) (null : Prop) : Prop where
  get_null : table.get handle = .error .nullHandle ↔ null
  remove_null : table.remove handle = .error .nullHandle ↔ null
  get_invalid : table.get handle = .error .invalidHandle ↔ ¬null ∧ ¬table.Live handle
  remove_invalid : table.remove handle = .error .invalidHandle ↔ ¬null ∧ ¬table.Live handle

theorem refuses_low (table : HandleTable α) (handle : Handle) :
    table.Refuses handle (handle.low = 0) where
  get_null := get_eq_nullHandle_iff
  remove_null := remove_eq_error_iff.trans get_eq_nullHandle_iff
  get_invalid := get_eq_invalidHandle_iff
  remove_invalid := remove_eq_error_iff.trans get_eq_invalidHandle_iff

end HandleTable

/-! ## Sessions -/

/-- A backend that never answers a failure. -/
def Backend.NeverFails (backend : Backend) (failure : Failure) : Prop :=
  ∀ received request, backend.answer received request ≠ .failed failure

/-- A call reports no handle as null unless the backend does. -/
theorem Context.call_ne_nullHandle {context : Context}
    (h : context.backend.NeverFails .nullHandle) (call : Call) :
    (context.call call).result ≠ .failed .nullHandle := by
  obtain ⟨result, requests, hending⟩ := exists_ending context call
  rw [hending.ends.1]
  intro hnull
  cases hending with
  | rejected _ _ hanswer =>
    cases hnull
    exact h _ _ hanswer
  | _ => cases hnull

theorem Status.code_ofOutcome_eq_nullHandle_iff {α : Type} {outcome : Outcome α} :
    (ofOutcome outcome).code = -1 ↔ outcome = .failed .nullHandle := by
  cases outcome with
  | done value => exact iff_of_false nofun nofun
  | crashed text => exact iff_of_false nofun nofun
  | failed failure => cases failure <;> simp [ofOutcome, ofFailure, code]

namespace Session

variable {session : Session} {handle : Handle}

/-- The backend of the context of a handle, if it has one, never answers the failure that a null
handle is reported with. -/
def Discerns (session : Session) (handle : Handle) : Prop :=
  ∀ context, session.view handle = .ok context → context.backend.NeverFails .nullHandle

theorem compileIn_eq_nullHandle_iff (hbackend : session.Discerns handle) (env : Environment)
    (source name : String) :
    (session.compileIn handle env source name).result = .failed .nullHandle ↔ handle.low = 0 := by
  have hnull : session.contexts.get handle = .error .nullHandle ↔ handle.low = 0 :=
    HandleTable.get_eq_nullHandle_iff
  rw [← hnull]
  cases hget : session.contexts.get handle with
  | error failure =>
    rw [compileIn_of_error hget]
    exact ⟨fun h => congrArg _ (Outcome.failed.inj h), fun h => congrArg _ (Except.error.inj h)⟩
  | ok context =>
    rw [compileIn_of_ok hget]
    exact iff_of_false (Context.call_ne_nullHandle (hbackend context hget) _) nofun

theorem compileStatus_eq_nullHandle_iff (hbackend : session.Discerns handle)
    {source name : ForeignText} {text kernel : String} (hsource : source.Holds text)
    (hname : name.Holds kernel) :
    (session.compileStatus handle source name).result.code = -1 ↔ handle.low = 0 := by
  rw [compileStatus_of_holds hsource hname]
  exact Status.code_ofOutcome_eq_nullHandle_iff.trans
    (compileIn_eq_nullHandle_iff hbackend _ text kernel)

theorem withContext_eq_nullHandle_iff {α : Type}
    (borrower : Session × Context → Step (Session × Context) α) :
    (session.withContext handle borrower).result = .error .nullHandle ↔ handle.low = 0 := by
  have hnull : session.contexts.get handle = .error .nullHandle ↔ handle.low = 0 :=
    HandleTable.get_eq_nullHandle_iff
  rw [← hnull]
  cases hget : session.contexts.get handle with
  | error failure =>
    rw [withContext_of_error hget]
    exact ⟨fun h => congrArg _ (Except.error.inj h), fun h => congrArg _ (Except.error.inj h)⟩
  | ok context =>
    rw [withContext_of_ok hget borrower rfl rfl]
    exact iff_of_false nofun nofun

theorem lookup_eq_nullHandle_iff (name : String) :
    session.lookup handle name = .error .nullHandle ↔ handle.low = 0 := by
  have hnull : session.contexts.get handle = .error .nullHandle ↔ handle.low = 0 :=
    HandleTable.get_eq_nullHandle_iff
  rw [← hnull, lookup, view]
  cases session.contexts.get handle with
  | error failure => simp
  | ok context => simp

/-- Under which condition the operations of a session report a handle as null.  Foreign callers
learn it from the status, if their texts can be read. -/
structure Refuses (session : Session) (handle : Handle) (null : Prop) : Prop where
  lookup : ∀ name, session.lookup handle name = .error .nullHandle ↔ null
  withContext : ∀ {α : Type} (borrower : Session × Context → Step (Session × Context) α),
    (session.withContext handle borrower).result = .error .nullHandle ↔ null
  compileIn : session.Discerns handle → ∀ env source name,
    (session.compileIn handle env source name).result = .failed .nullHandle ↔ null
  compile : session.Discerns handle → ∀ source name,
    (session.compile handle source name).result = .failed .nullHandle ↔ null
  compileStatus : session.Discerns handle → ∀ {source name : ForeignText} {text kernel : String},
    source.Holds text → name.Holds kernel →
      ((session.compileStatus handle source name).result.code = -1 ↔ null)

theorem refuses_low (session : Session) (handle : Handle) :
    session.Refuses handle (handle.low = 0) where
  lookup := lookup_eq_nullHandle_iff
  withContext := withContext_eq_nullHandle_iff
  compileIn := compileIn_eq_nullHandle_iff
  compile hbackend := compileIn_eq_nullHandle_iff hbackend _
  compileStatus hbackend _ _ _ _ := compileStatus_eq_nullHandle_iff hbackend

/-- The failure that a handle is refused with is decided by the low half of its number and by
the table: a look-up, a removal and every operation of a session report null exactly if the
low half is zero, whatever the high half is.  So that null is reported for zero alone, and
every other handle that is not live as invalid, is true of zero and of the handles whose low
half is not zero, and of no others. -/
theorem refused_by_low_half {α : Type} (table : HandleTable α) (session : Session)
    (handle : Handle) :
    (table.Refuses handle (handle.low = 0) ∧ session.Refuses handle (handle.low = 0)) ∧
      (table.Refuses handle (handle = .null) ∧ session.Refuses handle (handle = .null) ↔
        (handle.low = 0 → handle = .null)) := by
  have htable := table.refuses_low handle
  have hsession := session.refuses_low handle
  refine ⟨⟨htable, hsession⟩, ?_⟩
  constructor
  · intro h hlow
    exact h.1.get_null.mp (htable.get_null.mpr hlow)
  · intro h
    have hsame : (handle.low = 0) = (handle = .null) :=
      propext ⟨h, fun hnull => by rw [hnull]; rfl⟩
    rw [← hsame]
    exact ⟨htable, hsession⟩

/-- A stale handle is not null to a foreign caller, as its low half tells it from zero. -/
theorem refused_by_low_half_stale :
    let session := Run.final perform empty [.create 0, .destroy 1 0, .create 0]
    let text : ForeignText := some [0x78]
    (Handle.low 1 = 0 → (1 : Handle) = .null) ∧ session.Refuses 1 ((1 : Handle) = .null) ∧
      (session.compileStatus 1 text text).result.code ≠ -1 := by
  intro session text
  have hlow : Handle.low 1 = 0 → (1 : Handle) = .null := by decide
  have hbackend : session.Discerns 1 := by
    intro context hview
    cases hview
  obtain ⟨_, hrefuses⟩ := (refused_by_low_half session.contexts session 1).2.mpr hlow
  have htext : text.Holds "x" := ⟨[0x78], rfl, by decide⟩
  refine ⟨hlow, hrefuses, ?_⟩
  rw [Ne, hrefuses.compileStatus hbackend htext htext]
  decide

/-- A number that is not zero is reported as the null handle, at every layer. -/
theorem nonzero_reported_null :
    let handle : Handle := 0x100000000
    handle ≠ Handle.null ∧
      (HandleTable.empty : HandleTable Unit).get handle = .error .nullHandle ∧
      (HandleTable.empty : HandleTable Unit).remove handle = .error .nullHandle ∧
      empty.lookup handle "k" = .error .nullHandle ∧
      (empty.compile handle "s" "k").result = .failed .nullHandle ∧
      (empty.compileStatus handle (some [0x73]) (some [0x6b])).result.code = -1 := by
  refine ⟨by decide, rfl, rfl, rfl, rfl, by decide +kernel⟩

end Session
end KernelJit
