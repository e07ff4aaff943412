/-
How an operation can fail, and how it can end.

A failure is a cause, with one wording and one status for foreign callers.  An
operation that reaches the compiler backend can end in a third way besides a
value and a failure: the backend may crash, and then the operation ends with the
text of the crash and with whatever it had done to its state before.
-/
namespace KernelJit

/-- The causes for which an operation is refused or given up. -/
inductive Failure where
  /-- The null handle names no context. -/
  | nullHandle
  /-- The handle was never issued, or its context has been destroyed. -/
  | invalidHandle
  /-- A kernel's source or name cannot be used. -/
  | invalidArgument (reason : String)
  /-- The variable that names the toolchain root is unset or empty. -/
  | missingToolchainRoot (var : String)
  /-- The backend rejected the kernel. -/
  | compilationFailed (kernel log : String)
  /-- A fault of the library itself. -/
  | internalFault (message : String)
deriving DecidableEq

namespace Failure

/-- The wording of a failure. -/
def message : Failure → String
  | .nullHandle => "Context handle is null"
  | .invalidHandle => "Context handle is stale or unknown"
  | .invalidArgument reason => "Invalid argument: " ++ reason
  | .missingToolchainRoot var =>
    "Environment variable " ++ var ++ " is not set; cannot locate the CUDA toolchain"
  | .compilationFailed kernel log => "Compilation of kernel '" ++ kernel ++ "' failed: " ++ log
  | .internalFault message => "Panic: " ++ message

/-- Whether the toolchain itself failed, rather than its setup. -/
def isCompilationFailure : Failure → Bool
  | .compilationFailed .. => true
  | _ => false

end Failure

/-- How an operation ended. -/
inductive Outcome (α : Type) where
  | done (value : α)
  | failed (failure : Failure)
  /-- The backend crashed with this text. -/
  | crashed (text : String)
deriving DecidableEq

namespace Outcome

/-- The same ending, with the value replaced. -/
def map {α β : Type} (f : α → β) : Outcome α → Outcome β
  | .done value => .done (f value)
  | .failed failure => .failed failure
  | .crashed text => .crashed text

/-- The ending of an operation that was either refused or begun. -/
def ofExcept {α : Type} : Except Failure (Outcome α) → Outcome α
  | .ok outcome => outcome
  | .error failure => .failed failure

end Outcome

end KernelJit
