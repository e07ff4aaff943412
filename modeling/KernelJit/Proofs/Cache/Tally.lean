/-
What the tally of a cache and its backend does not decide.

The count of misses and the list of requests that the backend has had are a tally: no
decision of a cache reads the count, and a backend that is a function of the request
does not read the list.  `cleared` wipes the tally out, and `getOrCompile_tally` says
that a cache and a backend that differ in it alone give the same result and the same
events, evictions among them, and go on to differ in it alone.
-/
import KernelJit.Proofs.Cache.Compile

namespace KernelJit

/-- A backend whose answer to a request does not depend on the earlier ones. -/
def Backend.Pure (backend : Backend) : Prop :=
  ∀ received request, backend.answer received request = backend.answer [] request

/-- A backend that rejects one source and echoes all others. -/
def Backend.rejecting (source : String) : Backend where
  name := "rejecting"
  answer _ request :=
    if request.source = source then .failed (.compilationFailed request.name "rejected")
    else .done { ptx := request.source, device := request.device, variant := request.variant }

namespace Cache

/-- The cache with another count of misses. -/
def withMisses (cache : Cache) (misses : UInt64) : Cache :=
  { cache with misses }

theorem evictUpTo_withMisses (size : Size) (n : Nat) (cache : Cache) (misses : UInt64) :
    evictUpTo size n (cache.withMisses misses) =
      ((evictUpTo size n cache).1.withMisses misses, (evictUpTo size n cache).2) := by
  induction n generalizing cache with
  | zero => rfl
  | succ n ih =>
    cases hfits : cache.fits size with
    | true =>
      have hfits' : (cache.withMisses misses).fits size = true := hfits
      rw [evictUpTo_of_fits hfits, evictUpTo_of_fits hfits']
    | false =>
      have hfits' : (cache.withMisses misses).fits size = false := hfits
      cases hvictim : cache.victim? with
      | none =>
        have hvictim' : (cache.withMisses misses).victim? = none := hvictim
        rw [evictUpTo_of_no_victim hvictim, evictUpTo_of_no_victim hvictim']
      | some entry =>
        have hvictim' : (cache.withMisses misses).victim? = some entry := hvictim
        rw [evictUpTo_of_victim hfits hvictim, evictUpTo_of_victim hfits' hvictim']
        show ((evictUpTo size n ((cache.evict entry).withMisses misses)).1, _ ::
          (evictUpTo size n ((cache.evict entry).withMisses misses)).2) = _
        rw [ih (cache.evict entry)]

theorem insert_withMisses (cache : Cache) (misses : UInt64) (key : Fingerprint)
    (program : Program) :
    (cache.withMisses misses).insert key program =
      { result := (cache.insert key program).result
        state := (cache.insert key program).state.withMisses misses
        trace := (cache.insert key program).trace } := by
  have hroom : (cache.withMisses misses).makeRoom program.size =
      ((cache.makeRoom program.size).1.withMisses misses, (cache.makeRoom program.size).2) :=
    evictUpTo_withMisses program.size cache.entries.length cache misses
  rw [insert_eq, hroom]
  rfl

/-- A cache and a backend without their tally. -/
def cleared (state : Cache × Backend) : Cache × Backend :=
  (state.1.withMisses 0, { state.2 with received := [] })

theorem getOrCompile_tally {backend : Backend} (hpure : backend.Pure) (cache : Cache)
    (misses : UInt64) (received : List Request) (request : Request) :
    let other := (cache.withMisses misses).getOrCompile { backend with received } request
    other.result = (cache.getOrCompile backend request).result ∧
      other.trace = (cache.getOrCompile backend request).trace ∧
      cleared other.state = cleared (cache.getOrCompile backend request).state := by
  intro other
  cases hfind : cache.find? (Fingerprint.ofRequest request) with
  | some entry =>
    have hfind' : (cache.withMisses misses).find? (Fingerprint.ofRequest request) = some entry :=
      hfind
    rw [show other = _ from getOrCompile_of_hit hfind', getOrCompile_of_hit hfind]
    exact ⟨rfl, rfl, rfl⟩
  | none =>
    have hfind' : (cache.withMisses misses).find? (Fingerprint.ofRequest request) = none := hfind
    have hsame : backend.answer received request = backend.answer backend.received request :=
      (hpure received request).trans (hpure backend.received request).symm
    cases hanswer : backend.answer backend.received request with
    | done program =>
      rw [show other = _ from getOrCompile_of_done hfind' (hsame.trans hanswer),
        getOrCompile_of_done hfind hanswer]
      have hinsert : (cache.withMisses misses).missed.insert (Fingerprint.ofRequest request) program
          = _ := insert_withMisses cache (misses + 1) _ program
      have hmissed : cache.missed.insert (Fingerprint.ofRequest request) program = _ :=
        insert_withMisses cache (cache.misses + 1) _ program
      rw [hinsert, hmissed]
      exact ⟨rfl, rfl, rfl⟩
    | failed failure =>
      rw [show other = _ from getOrCompile_of_failed hfind' (hsame.trans hanswer),
        getOrCompile_of_failed hfind hanswer]
      exact ⟨rfl, rfl, rfl⟩
    | crashed text =>
      rw [show other = _ from getOrCompile_of_crashed hfind' (hsame.trans hanswer),
        getOrCompile_of_crashed hfind hanswer]
      exact ⟨rfl, rfl, rfl⟩

end Cache
end KernelJit
