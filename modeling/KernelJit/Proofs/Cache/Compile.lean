/-
How a cache comes by a program, case by case.

A request is answered from the cache, or the backend is called and ends in one of
three ways.  There is one equation for each case, which gives the whole step: result,
cache, backend and events.
-/
import KernelJit.Proofs.Cache.Entries

namespace KernelJit

namespace Event

def isHit : Event → Bool
  | .cacheHit .. => true
  | _ => false

def isMiss : Event → Bool
  | .cacheMiss .. => true
  | _ => false

def isEviction : Event → Bool
  | .evicted _ => true
  | _ => false

end Event

/-- The backend after it was asked for a program. -/
def Backend.asked (backend : Backend) (request : Request) : Backend :=
  { backend with received := backend.received ++ [request] }

namespace Cache

/-- The cache after the program under a key was served from it. -/
def served (cache : Cache) (key : Fingerprint) : Cache :=
  { cache.touch key with hits := cache.hits + 1 }

/-- The cache after a program was asked for that it does not hold. -/
def missed (cache : Cache) : Cache :=
  { cache with misses := cache.misses + 1 }

/-- The events of a call of the backend. -/
def calling (backend : Backend) (request : Request) : List Event :=
  [.cacheMiss request.name backend.name, .backendCalled backend.name request]

variable {cache : Cache} {backend : Backend} {request : Request}

theorem getOrCompile_of_hit {entry : Entry}
    (hfind : cache.find? (Fingerprint.ofRequest request) = some entry) :
    cache.getOrCompile backend request =
      { result := .done entry.program
        state := (cache.served (Fingerprint.ofRequest request), backend)
        trace := [.cacheHit request.name (Fingerprint.ofRequest request)] } := by
  rw [getOrCompile, get, hfind]
  rfl

theorem getOrCompile_of_done {program : Program}
    (hfind : cache.find? (Fingerprint.ofRequest request) = none)
    (hanswer : backend.answer backend.received request = .done program) :
    cache.getOrCompile backend request =
      { result := .done (cache.missed.insert (Fingerprint.ofRequest request) program).result
        state := ((cache.missed.insert (Fingerprint.ofRequest request) program).state,
          backend.asked request)
        trace := calling backend request ++
          (cache.missed.insert (Fingerprint.ofRequest request) program).trace } := by
  rw [getOrCompile, get, hfind]
  show cache.compile backend request = _
  rw [compile, Backend.call, hanswer]
  rfl

theorem getOrCompile_of_failed {failure : Failure}
    (hfind : cache.find? (Fingerprint.ofRequest request) = none)
    (hanswer : backend.answer backend.received request = .failed failure) :
    cache.getOrCompile backend request =
      { result := .failed failure
        state := (cache.missed, backend.asked request)
        trace := calling backend request } := by
  rw [getOrCompile, get, hfind]
  show cache.compile backend request = _
  rw [compile, Backend.call, hanswer]
  rfl

theorem getOrCompile_of_crashed {text : String}
    (hfind : cache.find? (Fingerprint.ofRequest request) = none)
    (hanswer : backend.answer backend.received request = .crashed text) :
    cache.getOrCompile backend request =
      { result := .crashed text
        state := (cache.missed, backend.asked request)
        trace := calling backend request } := by
  rw [getOrCompile, get, hfind]
  show cache.compile backend request = _
  rw [compile, Backend.call, hanswer]
  rfl

/-- Without a program the backend was called, and nothing of the cache but the count of
misses has changed. -/
theorem state_of_getOrCompile_not_done
    (h : ∀ program, (cache.getOrCompile backend request).result ≠ .done program) :
    (cache.getOrCompile backend request).state = (cache.missed, backend.asked request) := by
  cases hfind : cache.find? (Fingerprint.ofRequest request) with
  | some entry =>
    rw [getOrCompile_of_hit hfind] at h
    exact absurd rfl (h entry.program)
  | none =>
    cases hanswer : backend.answer backend.received request with
    | done program =>
      rw [getOrCompile_of_done hfind hanswer] at h
      exact absurd rfl (h _)
    | failed failure => rw [getOrCompile_of_failed hfind hanswer]
    | crashed text => rw [getOrCompile_of_crashed hfind hanswer]

/-- A backend goes on as it is; it only gathers requests. -/
theorem answer_getOrCompile (cache : Cache) (backend : Backend) (request : Request) :
    (cache.getOrCompile backend request).state.2.answer = backend.answer := by
  cases hfind : cache.find? (Fingerprint.ofRequest request) with
  | some entry => rw [getOrCompile_of_hit hfind]
  | none =>
    cases hanswer : backend.answer backend.received request with
    | done program =>
      rw [getOrCompile_of_done hfind hanswer]
      rfl
    | failed failure =>
      rw [getOrCompile_of_failed hfind hanswer]
      rfl
    | crashed text =>
      rw [getOrCompile_of_crashed hfind hanswer]
      rfl

/-- A property of entries that does not depend on the count of their uses is kept, if
the program that the backend answers has it under the request's fingerprint. -/
theorem forall_getOrCompile {P : Entry → Prop} (huse : ∀ entry, P entry → P entry.use)
    (hcache : ∀ entry ∈ cache.entries, P entry)
    (hfresh : ∀ program id, backend.answer backend.received request = .done program →
      P (Entry.fresh (Fingerprint.ofRequest request) program id)) :
    ∀ entry ∈ (cache.getOrCompile backend request).state.1.entries, P entry := by
  cases hfind : cache.find? (Fingerprint.ofRequest request) with
  | some entry =>
    rw [getOrCompile_of_hit hfind]
    exact forall_touch huse hcache _
  | none =>
    cases hanswer : backend.answer backend.received request with
    | done program =>
      have hmissed : ∀ entry ∈ cache.missed.entries, P entry := hcache
      rw [getOrCompile_of_done hfind hanswer]
      exact forall_insert hmissed fun id => hfresh program id hanswer
    | failed failure =>
      rw [getOrCompile_of_failed hfind hanswer]
      exact hcache
    | crashed text =>
      rw [getOrCompile_of_crashed hfind hanswer]
      exact hcache

/-- The program that is got is that of an entry of the cache afterwards.  After a hit
the entry is the one found, and after a miss the one stored. -/
theorem exists_of_getOrCompile_done {program : Shared Program}
    (h : (cache.getOrCompile backend request).result = .done program) :
    ∃ entry ∈ (cache.getOrCompile backend request).state.1.entries,
      entry.key = Fingerprint.ofRequest request ∧ entry.program = program := by
  cases hfind : cache.find? (Fingerprint.ofRequest request) with
  | some entry =>
    rw [getOrCompile_of_hit hfind] at h ⊢
    have hkey := key_of_find? hfind
    refine ⟨entry.use, List.mem_map.mpr ⟨entry, mem_of_find? hfind, if_pos hkey⟩, hkey, ?_⟩
    exact Outcome.done.inj h
  | none =>
    cases hanswer : backend.answer backend.received request with
    | done compiled =>
      rw [getOrCompile_of_done hfind hanswer] at h ⊢
      exact ⟨_, mem_put.mpr (Or.inr rfl), rfl, Outcome.done.inj h⟩
    | failed failure =>
      rw [getOrCompile_of_failed hfind hanswer] at h
      cases h
    | crashed text =>
      rw [getOrCompile_of_crashed hfind hanswer] at h
      cases h

end Cache
end KernelJit
