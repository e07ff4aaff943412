/-
Entry points for callers that know only numbers and byte strings.

A foreign caller passes a text as bytes up to the first zero byte, or passes
nothing at all, and is answered with a status.  A text is decoded before the handle
is looked at, the source before the name.  A crash of the backend ends at the entry
point and becomes a status.
-/
import KernelJit.Session.Basic
import KernelJit.Status

namespace KernelJit

/-- A text as a foreign caller passes it: nothing, or bytes of which those before
the first zero byte count. -/
abbrev ForeignText := Option (List UInt8)

namespace ForeignText

/-- The text that was passed; `what` says what it was passed as. -/
def read (foreign : ForeignText) (what : String) : Except Failure String :=
  match foreign with
  | none => .error (.invalidArgument (what ++ " is NULL"))
  | some bytes =>
    match Utf8.decode? (bytes.takeWhile (· ≠ 0)) with
    | some text => .ok text
    | none => .error (.invalidArgument (what ++ " is not valid UTF-8"))

end ForeignText

namespace Session

/-- Compile a kernel, and answer with a status. -/
def compileStatus (session : Session) (handle : Handle) (source name : ForeignText) :
    Step Session Status :=
  match source.read "kernel source" with
  | .error failure => .unchanged session (.ofFailure failure)
  | .ok source =>
    match name.read "kernel name" with
    | .error failure => .unchanged session (.ofFailure failure)
    | .ok name =>
      (session.compile handle source name).map .ofOutcome

/-- Compile a kernel, and answer whether that succeeded. -/
def compileSucceeds (session : Session) (handle : Handle) (source name : ForeignText) :
    Step Session Bool :=
  (session.compileStatus handle source name).map (· == .success)

/-- Whether an operator is registered under a name. -/
def hasOperator (session : Session) (handle : Handle) (name : ForeignText) : Bool :=
  match name.read "kernel name" with
  | .error _ => false
  | .ok name =>
    match session.lookup handle name with
    | .ok operator => operator.isSome
    | .error _ => false

/-- The number of registered operators, or -1 for a handle that names no context. -/
def operatorCount (session : Session) (handle : Handle) : Int :=
  match session.view handle with
  | .ok context => context.operators.size
  | .error _ => -1

end Session

end KernelJit
