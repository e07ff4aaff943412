/-
Execution contexts: everything that one device's kernels are compiled with.

A context owns its backend, its cache and its registry of operators, and shares
nothing with another context.  Compiling a kernel checks the name and the source,
finds the toolchain root, classifies the source, gets a program from the cache or
the backend, and registers the operator under the kernel's name, in this order; the
first step that fails ends it, and then the registry is as it was.
-/
import KernelJit.Cache.Basic
import KernelJit.Classification.OfSource
import KernelJit.Options
import KernelJit.Registry

namespace KernelJit

/-- What the kernels of one device are compiled with. -/
structure Context where
  device : UInt32
  options : Options
  backend : Backend
  cache : Cache
  operators : Registry := .empty

namespace Context

/-- A context without operators and with an empty cache. -/
def create (device : UInt32) (options : Options) (backend : Backend) (ties : TieBreak) :
    Context :=
  { device, options, backend, cache := .ofMegabytes options.cacheMegabytes ties }

/-- The event of a context being made. -/
def created (context : Context) : Event :=
  .contextCreated context.device context.backend.name

/-- The event of a context being given up. -/
def released (context : Context) : Event :=
  .contextReleased context.device context.operators.size context.cache.entries.length

/-- The operator that is registered under a name. -/
def operator? (context : Context) (name : String) : Option (Shared Operator) :=
  context.operators.find? name

/-- Register an operator for a program that has just been got, and answer it. -/
def register (context : Context) (name : String) (operator : Operator) :
    Step Context (Outcome (Shared Operator)) :=
  let (replaced, operators) := context.operators.insert name operator
  { result := match operators.find? name with
      | some registered => .done registered
      | none => .failed (.internalFault ("kernel '" ++ name ++ "' vanished after insert"))
    state := { context with operators }
    trace := match replaced with
      | some _ => [.replaced name]
      | none => [] }

/-- The request for a kernel, with the flags for the toolchain root. -/
def request (context : Context) (source name root : String) : Request :=
  { name, source
    variant := context.options.variant
    includeFlags := context.options.includeFlags root
    device := context.device }

/-- Compile a kernel with a toolchain root, and register it. -/
def compileWithRoot (context : Context) (source name root : String) :
    Step Context (Outcome (Shared Operator)) :=
  let (classification, classified) := Classification.ofSource source
  let got := context.cache.getOrCompile context.backend (context.request source name root)
  let (cache, backend) := got.state
  let current := { context with cache, backend }
  let step : Step Context (Outcome (Shared Operator)) := match got.result with
    | .done program =>
      current.register name
        { program, aggregation := classification.aggregation, reducer := classification.reducer }
    | .failed failure =>
      { result := .failed failure, state := current, trace := [.compileFailed name failure] }
    | .crashed text => .unchanged current (.crashed text)
  step.after (classified ++ got.trace)

/-- Compile a kernel and register it under its name.  The toolchain root is read
from the environment. -/
def compile (context : Context) (env : Environment) (source name : String) :
    Step Context (Outcome (Shared Operator)) :=
  if name = "" then
    .unchanged context (.failed (.invalidArgument "kernel name is empty"))
  else if source = "" then
    .unchanged context (.failed (.invalidArgument ("kernel '" ++ name ++ "' has empty source")))
  else
    let (root, searched) := context.options.root env
    let step : Step Context (Outcome (Shared Operator)) := match root with
      | .error failure => .unchanged context (.failed failure)
      | .ok root => context.compileWithRoot source name root
    step.after (.compiling name source :: searched)

/-! ## Commands -/

/-- Something to do with a context. -/
inductive Command where
  | compile (env : Environment) (source name : String)
  | find (name : String)

/-- The answer to a command. -/
inductive Reply where
  | compiled (outcome : Outcome (Shared Operator))
  | found (operator : Option (Shared Operator))

/-- Carry out a command. -/
def perform (context : Context) : Command → Step Context Reply
  | .compile env source name => (context.compile env source name).map .compiled
  | .find name => .unchanged context (.found (context.operator? name))

end Context

end KernelJit
