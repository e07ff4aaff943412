/-
Status codes for foreign callers.

A foreign caller sees one signed number: zero for success and a negative number
for each kind of failure.  Numbers that no status has are given a text too, since
callers may ask about any number.
-/
import KernelJit.Failure

namespace KernelJit

/-- What a foreign caller is told about an operation. -/
inductive Status where
  | success
  | nullHandle
  | invalidHandle
  | invalidArgument
  | missingToolchainRoot
  | compilationFailed
  /-- A fault of the library, or a crash that was caught. -/
  | internalFault
deriving DecidableEq

namespace Status

/-- Every status, each once. -/
def all : List Status :=
  [.success, .nullHandle, .invalidHandle, .invalidArgument, .missingToolchainRoot,
    .compilationFailed, .internalFault]

/-- The number of a status. -/
def code : Status → Int
  | .success => 0
  | .nullHandle => -1
  | .invalidHandle => -2
  | .invalidArgument => -3
  | .missingToolchainRoot => -4
  | .compilationFailed => -5
  | .internalFault => -101

/-- The text of a status. -/
def text : Status → String
  | .success => "SPOOF_SUCCESS: operation completed successfully"
  | .nullHandle => "SPOOF_NULL_HANDLE: context handle is null"
  | .invalidHandle => "SPOOF_INVALID_HANDLE: context handle is stale or unknown"
  | .invalidArgument => "SPOOF_INVALID_ARGUMENT: invalid kernel source or name"
  | .missingToolchainRoot =>
    "SPOOF_MISSING_TOOLCHAIN_ROOT: toolchain root environment variable is not set"
  | .compilationFailed => "SPOOF_COMPILATION_FAILED: kernel compilation failed"
  | .internalFault => "SPOOF_PANIC: internal panic caught at FFI boundary"

/-- The status with a given number, if there is one. -/
def ofCode? (code : Int) : Option Status :=
  all.find? (·.code == code)

/-- The text for a number. -/
def describe (code : Int) : String :=
  match ofCode? code with
  | some status => status.text
  | none => "Unknown SpoofInfo code"

/-- The status of a failure. -/
def ofFailure : Failure → Status
  | .nullHandle => .nullHandle
  | .invalidHandle => .invalidHandle
  | .invalidArgument _ => .invalidArgument
  | .missingToolchainRoot _ => .missingToolchainRoot
  | .compilationFailed .. => .compilationFailed
  | .internalFault _ => .internalFault

/-- The status of an operation that may have ended in any way. -/
def ofOutcome {α : Type} : Outcome α → Status
  | .done _ => .success
  | .failed failure => ofFailure failure
  | .crashed _ => .internalFault

/-- Every status is listed. -/
theorem mem_all (status : Status) : status ∈ all := by
  cases status <;> decide

/-- A status is found under its own number, so the numbers are distinct. -/
theorem ofCode?_code (status : Status) : ofCode? status.code = some status := by
  cases status <;> decide

end Status

end KernelJit
