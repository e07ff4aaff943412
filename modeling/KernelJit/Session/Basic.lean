/-
Sessions: contexts held by handles.

A session has a table of contexts and the settings that its toolchain roots are read
from.  Every operation names a context by its handle, and reports a handle
that names none.

An operation borrows the context that it works on.  The handle of a borrowed
context can be destroyed meanwhile: then it names nothing from that moment on, its
slot is free, and the borrower keeps the context until it has finished.  A context
is released when its handle has been destroyed and nobody borrows it, so exactly
once.
-/
import KernelJit.Context
import KernelJit.Handle.Table

namespace KernelJit

/-- Contexts held by handles, and the settings around them. -/
structure Session where
  contexts : HandleTable Context := .empty
  settings : Settings := .empty
  /-- The handles whose contexts are borrowed. -/
  lent : List Handle := []
  /-- The tie-break that new contexts get. -/
  ties : TieBreak := .oldest

namespace Session

/-- Without any context, and with no variable set. -/
def empty : Session := {}

/-- Make a context with the given options and backend. -/
def createWith (session : Session) (device : UInt32) (options : Options) (backend : Backend) :
    Step Session Handle :=
  let context := Context.create device options backend session.ties
  let (handle, contexts) := session.contexts.insert context
  { result := handle, state := { session with contexts }
    trace := [context.created, .handleIssued handle] }

/-- Make a context with the default options and the default backend. -/
def create (session : Session) (device : UInt32) : Step Session Handle :=
  (session.createWith device {} .disabled).after [.deviceOpened device]

/-- End a handle and release its context.  A handle that names no context is
ignored, and the null handle is ignored without a word. -/
def destroy (session : Session) (handle : Handle) (device : UInt32) : Step Session Unit :=
  if handle = Handle.null then .unchanged session ()
  else
    match session.contexts.remove handle with
    | .ok (context, contexts) =>
      { result := (), state := { session with contexts }
        trace := .handleDestroyed handle device ::
          if handle ∈ session.lent then [] else [context.released] }
    | .error failure =>
      { result := (), state := session, trace := [.destroyIgnored handle failure] }

/-- Whether a handle names a context. -/
def isLive (session : Session) (handle : Handle) : Bool :=
  session.contexts.contains handle

/-- Give a context back that was borrowed from a session as it was before: to its
handle, or, if that has been destroyed, to be released. -/
def giveBack (session before : Session) (handle : Handle) (context : Context) :
    Session × List Event :=
  let returned := { session with lent := before.lent }
  match session.contexts.get handle with
  | .ok _ => ({ returned with contexts := session.contexts.replace handle context }, [])
  | .error _ => (returned, [context.released])

/-- Borrow the context of a handle.  The borrower gets the context and the session
around it, and returns both. -/
def withContext {α : Type} (session : Session) (handle : Handle)
    (borrower : Session × Context → Step (Session × Context) α) :
    Step Session (Except Failure α) :=
  match session.contexts.get handle with
  | .error failure => .unchanged session (.error failure)
  | .ok context =>
    let step := borrower ({ session with lent := handle :: session.lent }, context)
    let (after, trace) := step.state.1.giveBack session handle step.state.2
    { result := .ok step.result, state := after, trace := step.trace ++ trace }

/-- Compile a kernel in a borrowed context. -/
def compileBorrowed (env : Environment) (source name : String) (lent : Session × Context) :
    Step (Session × Context) (Outcome (Shared Operator)) :=
  let step := lent.2.compile env source name
  { step with state := (lent.1, step.state) }

/-- Compile a kernel in the context of a handle, in a given environment. -/
def compileIn (session : Session) (handle : Handle) (env : Environment) (source name : String) :
    Step Session (Outcome (Shared Operator)) :=
  (session.withContext handle (compileBorrowed env source name)).map Outcome.ofExcept

/-- Compile a kernel in the context of a handle. -/
def compile (session : Session) (handle : Handle) (source name : String) :
    Step Session (Outcome (Shared Operator)) :=
  session.compileIn handle session.settings.environment source name

/-- The context of a handle, as it is now. -/
def view (session : Session) (handle : Handle) : Except Failure Context :=
  session.contexts.get handle

/-- The operator that is registered under a name in the context of a handle. -/
def lookup (session : Session) (handle : Handle) (name : String) :
    Except Failure (Option (Shared Operator)) :=
  match session.view handle with
  | .ok context => .ok (context.operator? name)
  | .error failure => .error failure

/-- What is seen by a borrower that destroys the handle of its context and then
compiles a kernel in it. -/
structure Farewell where
  /-- Whether the handle named a context after it was destroyed. -/
  live : Bool
  compiled : Outcome (Shared Operator)
  /-- The context as the borrower left it. -/
  view : Context

/-- Destroy a handle, ask whether it is live, and compile a kernel in the context
that it named. -/
def destroyAndCompile (handle : Handle) (device : UInt32) (env : Environment)
    (source name : String) (lent : Session × Context) : Step (Session × Context) Farewell :=
  let destroyed := lent.1.destroy handle device
  let compiled := compileBorrowed env source name (destroyed.state, lent.2)
  { result :=
      { live := destroyed.state.isLive handle
        compiled := compiled.result
        view := compiled.state.2 }
    state := compiled.state
    trace := destroyed.trace ++ compiled.trace }

/-- Destroy a handle while its context is borrowed, and go on working in the
context. -/
def destroyInside (session : Session) (handle : Handle) (device : UInt32) (env : Environment)
    (source name : String) : Step Session (Except Failure Farewell) :=
  session.withContext handle (destroyAndCompile handle device env source name)

/-- Set a variable of the environment, or unset it.  A value that is not the
encoding of a text cannot be read, as a whole or from an equals sign on, so the
variable counts as unset. -/
def setVariable (session : Session) (var : String) (value : Option (List UInt8)) : Session :=
  { session with settings := session.settings.set var (value.bind Utf8.decode?) }

end Session

end KernelJit
