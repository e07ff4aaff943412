/-
The compilation cache: compiled programs under the fingerprints of their requests.

A cache has a budget in bytes.  Before a program is stored, entries are put out
until the program fits or no entry is left; the entry put out is always one of
those that have been used least.  A program larger than the budget is stored all
the same, alone.  The entry that a new program is about to replace counts as long
as room is being made, and it can itself be put out.

Several entries may have been used least.  Which of them goes is decided by a
tie-break, which is part of the cache and can be any function of the number of
entries put out before: no caller may rely on the choice.

Entries stand in the order in which they were stored, and no two have the same
key.  Sizes and counters are 64-bit numbers.
-/
import KernelJit.Backend
import KernelJit.Step

namespace KernelJit

/-- Which of several candidates to put out, given how many entries have been put
out before.  The choice is taken modulo the number of candidates. -/
abbrev TieBreak := Nat → Nat

/-- Always the candidate that was stored first. -/
def TieBreak.oldest : TieBreak := fun _ => 0

namespace Cache

/-- A cached program. -/
structure Entry where
  key : Fingerprint
  program : Shared Program
  /-- How often the program was asked for, the request that stored it included. -/
  uses : UInt64
  size : Size
deriving DecidableEq

end Cache

/-- A compilation cache. -/
structure Cache where
  /-- The size that the entries may have together. -/
  budget : Size
  ties : TieBreak
  entries : List Cache.Entry := []
  /-- The size that the entries have together. -/
  size : Size := 0
  hits : UInt64 := 0
  misses : UInt64 := 0
  /-- How many entries have been put out to make room. -/
  evictions : Nat := 0
  /-- How many programs have been stored; the number of the next one. -/
  stored : Nat := 0

namespace Cache

/-- An empty cache with a budget in bytes. -/
def ofBytes (budget : Size) (ties : TieBreak) : Cache :=
  { budget, ties }

/-- An empty cache with a budget in megabytes. -/
def ofMegabytes (megabytes : Size) (ties : TieBreak) : Cache :=
  ofBytes (Size.mul megabytes (1024 * 1024)) ties

/-- The entry under a key. -/
def find? (cache : Cache) (key : Fingerprint) : Option Entry :=
  cache.entries.find? (·.key == key)

/-- The same entry, used once more. -/
def Entry.use (entry : Entry) : Entry :=
  { entry with uses := entry.uses + 1 }

/-- The cache in which the entry under a key is used once more. -/
def touch (cache : Cache) (key : Fingerprint) : Cache :=
  { cache with entries := cache.entries.map fun e => if e.key = key then e.use else e }

/-- The program under a key, which counts as a use of it. -/
def get (cache : Cache) (key : Fingerprint) : Option (Shared Program) × Cache :=
  match cache.find? key with
  | some entry => (some entry.program, cache.touch key)
  | none => (none, cache)

/-! ## Making room -/

/-- Whether a program of this size can be stored within the budget. -/
def fits (cache : Cache) (size : Size) : Bool :=
  Size.add cache.size size ≤ cache.budget

/-- The entries that have been used no more than any other. -/
def leastUsed (cache : Cache) : List Entry :=
  cache.entries.filter fun e => cache.entries.all fun other => e.uses ≤ other.uses

/-- The entry to put out next. -/
def victim? (cache : Cache) : Option Entry :=
  cache.leastUsed[cache.ties cache.evictions % cache.leastUsed.length]?

/-- The cache without an entry. -/
def evict (cache : Cache) (entry : Entry) : Cache :=
  { cache with
    entries := cache.entries.filter (·.key ≠ entry.key)
    size := Size.sub cache.size entry.size
    evictions := cache.evictions + 1 }

/-- Put out at most `n` entries, until a program of this size fits. -/
def evictUpTo (size : Size) : Nat → Cache → Cache × List Event
  | 0, cache => (cache, [])
  | n + 1, cache =>
    if cache.fits size then (cache, [])
    else
      match cache.victim? with
      | some entry =>
        let (rest, trace) := evictUpTo size n (cache.evict entry)
        (rest, .evicted entry.key :: trace)
      | none => (cache, [])

/-- Put out entries until a program of this size fits or none is left. -/
def makeRoom (cache : Cache) (size : Size) : Cache × List Event :=
  evictUpTo size cache.entries.length cache

/-! ## Storing -/

/-- The size that the entries have together without the one under a key. -/
def sizeWithout (cache : Cache) (key : Fingerprint) : Size :=
  match cache.find? key with
  | some old => Size.sub cache.size old.size
  | none => cache.size

/-- Store a program under a key, in place of the one that is there. -/
def put (cache : Cache) (key : Fingerprint) (program : Shared Program) (size : Size) : Cache :=
  { cache with
    entries := cache.entries.filter (·.key ≠ key) ++ [{ key, program, uses := 1, size }]
    size := cache.sizeWithout key + size
    stored := cache.stored + 1 }

/-- Store a program under a key, after making room for it.  The result is the
program as it is stored, with the key as its fingerprint. -/
def insert (cache : Cache) (key : Fingerprint) (program : Program) :
    Step Cache (Shared Program) :=
  let (roomy, trace) := cache.makeRoom program.size
  let stored : Shared Program := { id := roomy.stored, value := program.tag key }
  { result := stored, state := roomy.put key stored program.size, trace }

/-- The cache without any entry. -/
def clear (cache : Cache) : Cache :=
  { cache with entries := [], size := 0 }

/-! ## Compiling -/

/-- Have a program compiled that is not in the cache, and store it. -/
def compile (cache : Cache) (backend : Backend) (request : Request) :
    Step (Cache × Backend) (Outcome (Shared Program)) :=
  let missed := { cache with misses := cache.misses + 1 }
  let (outcome, called) := backend.call request
  let trace := [.cacheMiss request.name backend.name, .backendCalled backend.name request]
  match outcome with
  | .done program =>
    let step := missed.insert (Fingerprint.ofRequest request) program
    { result := .done step.result, state := (step.state, called), trace := trace ++ step.trace }
  | .failed failure => { result := .failed failure, state := (missed, called), trace }
  | .crashed text => { result := .crashed text, state := (missed, called), trace }

/-- The program for a request: the one in the cache, or else a new one.  If no
program can be compiled, nothing but the count of misses changes. -/
def getOrCompile (cache : Cache) (backend : Backend) (request : Request) :
    Step (Cache × Backend) (Outcome (Shared Program)) :=
  let key := Fingerprint.ofRequest request
  match cache.get key with
  | (some program, used) =>
    { result := .done program
      state := ({ used with hits := used.hits + 1 }, backend)
      trace := [.cacheHit request.name key] }
  | (none, _) => cache.compile backend request

end Cache

end KernelJit
