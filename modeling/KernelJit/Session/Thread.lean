/-
What one thread can do with a session, in small steps.

A borrower may work on its context as it likes, and meanwhile it may call the session, borrow
other contexts and destroy any handle, its own one included.  Taken apart, this is a list of
acts: a call of the session, the begin of a borrowing, a piece of work on a borrowed
context, and the end of the borrowing that has begun last, by a return or by a crash.  What
a borrower makes of the things that it sees is in the choice of the acts.

A borrowed context is locked for everyone but its borrower, and a thread that asks for it
once more waits for itself.  Such an act is answered with `blocked` and does nothing.
-/
import KernelJit.Session.Command

namespace KernelJit

namespace Session

/-- The handle whose context a command locks, if it gets as far as that. -/
def Command.locked? : Command → Option Handle
  | .compile handle .. | .compileIn handle .. | .lookup handle _ | .view handle
  | .destroyInside handle .. | .operatorCount handle => some handle
  | .compileStatus handle source name | .compileSucceeds handle source name =>
    match source.read "kernel source", name.read "kernel name" with
    | .ok _, .ok _ => some handle
    | _, _ => none
  | .hasOperator handle name =>
    match name.read "kernel name" with
    | .ok _ => some handle
    | .error _ => none
  | .create _ | .createWith .. | .destroy .. | .isLive _ | .setVariable .. => none

end Session

/-- A session, and the contexts that a thread has borrowed from it. -/
structure Thread where
  session : Session
  /-- The borrowed contexts with their handles, the last one first. -/
  borrowed : List (Handle × Context) := []

/-- One thing that a thread does.  Work on a context answers with something to go on with. -/
inductive Act (ρ : Type) where
  | call (command : Session.Command)
  | borrow (handle : Handle)
  | work (handle : Handle) (task : Environment → Context → Step Context ρ)
  | giveBack

/-- The answer to an act. -/
inductive Answer (ρ : Type) where
  | replied (reply : Session.Reply)
  | lent (granted : Except Failure Unit)
  | worked (seen : ρ)
  | returned
  /-- The thread waits for a lock that it has itself, or has borrowed nothing to work on or
  to give back. -/
  | blocked

namespace Thread

variable {ρ : Type}

/-- Whether the context of a handle is borrowed. -/
def holds (thread : Thread) (handle : Handle) : Bool :=
  (thread.borrowed.lookup handle).isSome

/-- Whether a command asks for a context that is borrowed. -/
def blocks (thread : Thread) (command : Session.Command) : Bool :=
  match command.locked? with
  | some handle => thread.holds handle && thread.session.isLive handle
  | none => false

/-- Borrow the context of a handle. -/
def borrow (thread : Thread) (handle : Handle) (context : Context) : Thread :=
  { session := { thread.session with lent := handle :: thread.session.lent }
    borrowed := (handle, context) :: thread.borrowed }

/-- Put another context in place of a borrowed one. -/
def rewrite (thread : Thread) (handle : Handle) (context : Context) : Thread :=
  { thread with
    borrowed := thread.borrowed.map fun entry =>
      if entry.1 = handle then (handle, context) else entry }

/-- Do one thing. -/
def perform (thread : Thread) : Act ρ → Step Thread (Answer ρ)
  | .call command =>
    if thread.blocks command then .unchanged thread .blocked
    else
      let step := thread.session.perform command
      { result := .replied step.result
        state := { thread with session := step.state }
        trace := step.trace }
  | .borrow handle =>
    match thread.session.contexts.get handle with
    | .error failure => .unchanged thread (.lent (.error failure))
    | .ok context =>
      if thread.holds handle then .unchanged thread .blocked
      else .unchanged (thread.borrow handle context) (.lent (.ok ()))
  | .work handle task =>
    match thread.borrowed.lookup handle with
    | none => .unchanged thread .blocked
    | some context =>
      let step := task thread.session.settings.environment context
      { result := .worked step.result
        state := thread.rewrite handle step.state
        trace := step.trace }
  | .giveBack =>
    match thread.borrowed with
    | [] => .unchanged thread .blocked
    | (handle, context) :: borrowed =>
      let before := { thread.session with lent := borrowed.map (·.1) }
      let (session, trace) := thread.session.giveBack before handle context
      { result := .returned, state := { session, borrowed }, trace }

end Thread

end KernelJit
