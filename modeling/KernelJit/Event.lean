/-
What happens during an operation, and how it is logged.

Every operation answers with the events that happened on its way, in order.  An
event is a datum: it names what happened and to what, and `record?` gives the log
record that reports it.  A call of the backend is an event too; it is not logged
as such.
-/
import KernelJit.Classification.Basic
import KernelJit.Failure
import KernelJit.Fingerprint
import KernelJit.Handle.Basic
import KernelJit.Text.Quoted

namespace KernelJit

/-- How much attention a log record asks for. -/
inductive Level where
  | error
  | warn
  | info
  | debug
  | trace
deriving DecidableEq

/-- A line of the log. -/
structure Record where
  level : Level
  text : String
deriving DecidableEq

/-- Something that happened during an operation. -/
inductive Event where
  /-- A source was classified that declares no aggregation. -/
  | undeclared
  /-- A marker was found with no known value after it. -/
  | warned (warning : Classification.Warning)
  /-- A source was classified. -/
  | classified (aggregation : Aggregation) (reducer : Reducer)
  /-- The variable that names the toolchain root is unset or empty. -/
  | rootUnset (var : String)
  /-- A kernel is about to be compiled. -/
  | compiling (kernel source : String)
  /-- The program for a kernel was found in the cache. -/
  | cacheHit (kernel : String) (key : Fingerprint)
  /-- No program for a kernel was found in the cache. -/
  | cacheMiss (kernel backend : String)
  /-- The backend was called. -/
  | backendCalled (backend : String) (request : Request)
  /-- A program was put out of the cache to make room. -/
  | evicted (key : Fingerprint)
  /-- No program could be had for a kernel. -/
  | compileFailed (kernel : String) (failure : Failure)
  /-- An operator took the place of an earlier one with its name. -/
  | replaced (kernel : String)
  /-- A device is about to get a context. -/
  | deviceOpened (device : UInt32)
  /-- A context was made. -/
  | contextCreated (device : UInt32) (backend : String)
  /-- A context was given a handle. -/
  | handleIssued (handle : Handle)
  /-- A handle was ended. -/
  | handleDestroyed (handle : Handle) (device : UInt32)
  /-- A handle that names no context was to be ended. -/
  | destroyIgnored (handle : Handle) (failure : Failure)
  /-- A context was given up, with this many operators and cached programs. -/
  | contextReleased (device : UInt32) (operators programs : Nat)
deriving DecidableEq

namespace Event

/-- The log record that reports a warning. -/
def recordOfWarning : Classification.Warning → Record
  | .unknownAggregation near => ⟨.warn, "unknown aggregation type near " ++ Quoted.quote near⟩
  | .unknownReducer near => ⟨.warn, "unknown aggregation operator near " ++ Quoted.quote near⟩

/-- The log record that reports an event. -/
def record? : Event → Option Record
  | .undeclared => some ⟨.trace, "No CellType marker, kernel declares no aggregation"⟩
  | .warned warning => some (recordOfWarning warning)
  | .classified aggregation reducer =>
    some ⟨.debug, "Classified kernel as (" ++ aggregation.label ++ ", " ++ reducer.label ++ ")"⟩
  | .rootUnset var =>
    some ⟨.error, var ++ " is not set; cannot build the CUDA include path"⟩
  | .compiling kernel source =>
    some ⟨.info, "compiling cuda kernel " ++ kernel ++ "\n" ++ source⟩
  | .cacheHit kernel key =>
    some ⟨.debug, "Cache hit for kernel '" ++ kernel ++ "' (" ++ key.shortHex ++ ")"⟩
  | .cacheMiss kernel backend =>
    some ⟨.debug,
      "Cache miss for kernel '" ++ kernel ++ "', compiling with " ++ backend ++ " backend"⟩
  | .backendCalled .. => none
  | .evicted key => some ⟨.trace, "Evicting cached program " ++ key.shortHex⟩
  | .compileFailed kernel failure =>
    some ⟨.warn, "Kernel '" ++ kernel ++ "' failed to compile: " ++ failure.message⟩
  | .replaced kernel =>
    some ⟨.debug, "Replaced previously registered kernel '" ++ kernel ++ "'"⟩
  | .deviceOpened device => some ⟨.info, "initializing cuda device " ++ toString device.toNat⟩
  | .contextCreated device backend =>
    some ⟨.debug, "Creating execution context for device " ++ toString device.toNat ++
      " (" ++ backend ++ " backend)"⟩
  | .handleIssued handle =>
    some ⟨.trace, "Registered context handle " ++ Hex.ofNat handle.toNat⟩
  | .handleDestroyed handle device =>
    some ⟨.debug, "Destroyed context " ++ Hex.ofNat handle.toNat ++ " of device " ++
      toString device.toNat⟩
  | .destroyIgnored handle failure =>
    some ⟨.trace, "Ignoring destroy of " ++ Hex.ofNat handle.toNat ++ ": " ++ failure.message⟩
  | .contextReleased device operators programs =>
    some ⟨.trace, "Releasing context of device " ++ toString device.toNat ++ ": " ++
      toString operators ++ " operators, " ++ toString programs ++ " cached programs"⟩

end Event

end KernelJit
