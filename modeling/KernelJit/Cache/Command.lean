/-
The commands that a cache takes, as data.

A run of a cache is a list of commands; `perform` is one step of it.
-/
import KernelJit.Cache.Basic

namespace KernelJit
namespace Cache

/-- Something to do with a cache. -/
inductive Command where
  | getOrCompile (request : Request)
  | get (key : Fingerprint)
  | insert (key : Fingerprint) (program : Program)
  | clear

/-- The answer to a command. -/
inductive Reply where
  | compiled (outcome : Outcome (Shared Program))
  | found (program : Option (Shared Program))
  | stored (program : Shared Program)
  | cleared

/-- Carry out a command, with a backend for the programs that are not cached. -/
def perform (cache : Cache) (backend : Backend) : Command → Step (Cache × Backend) Reply
  | .getOrCompile request => (cache.getOrCompile backend request).map .compiled
  | .get key =>
    let (program, used) := cache.get key
    .unchanged (used, backend) (.found program)
  | .insert key program =>
    let step := cache.insert key program
    { result := .stored step.result, state := (step.state, backend), trace := step.trace }
  | .clear => .unchanged (cache.clear, backend) .cleared

end Cache
end KernelJit
