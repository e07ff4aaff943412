/-
The commands that a session takes, as data.

A run of a session is a list of commands; `perform` is one step of it, and answers
with what the caller of the entry point sees.
-/
import KernelJit.Session.Foreign

namespace KernelJit
namespace Session

/-- Something to do with a session. -/
inductive Command where
  | create (device : UInt32)
  | createWith (device : UInt32) (options : Options) (backend : Backend)
  | destroy (handle : Handle) (device : UInt32)
  | compile (handle : Handle) (source name : String)
  | compileIn (handle : Handle) (env : Environment) (source name : String)
  | lookup (handle : Handle) (name : String)
  | isLive (handle : Handle)
  | view (handle : Handle)
  | destroyInside (handle : Handle) (device : UInt32) (env : Environment) (source name : String)
  | compileStatus (handle : Handle) (source name : ForeignText)
  | compileSucceeds (handle : Handle) (source name : ForeignText)
  | hasOperator (handle : Handle) (name : ForeignText)
  | operatorCount (handle : Handle)
  | setVariable (var : String) (value : Option (List UInt8))

/-- The answer to a command. -/
inductive Reply where
  | issued (handle : Handle)
  | done
  | compiled (outcome : Outcome (Shared Operator))
  | found (operator : Except Failure (Option (Shared Operator)))
  | answer (yes : Bool)
  | view (context : Except Failure Context)
  | farewell (seen : Except Failure Farewell)
  | status (status : Status)
  | count (n : Int)

/-- Carry out a command. -/
def perform (session : Session) : Command → Step Session Reply
  | .create device => (session.create device).map .issued
  | .createWith device options backend => (session.createWith device options backend).map .issued
  | .destroy handle device => (session.destroy handle device).map fun _ => .done
  | .compile handle source name => (session.compile handle source name).map .compiled
  | .compileIn handle env source name => (session.compileIn handle env source name).map .compiled
  | .lookup handle name => .unchanged session (.found (session.lookup handle name))
  | .isLive handle => .unchanged session (.answer (session.isLive handle))
  | .view handle => .unchanged session (.view (session.view handle))
  | .destroyInside handle device env source name =>
    (session.destroyInside handle device env source name).map .farewell
  | .compileStatus handle source name => (session.compileStatus handle source name).map .status
  | .compileSucceeds handle source name =>
    (session.compileSucceeds handle source name).map .answer
  | .hasOperator handle name => .unchanged session (.answer (session.hasOperator handle name))
  | .operatorCount handle => .unchanged session (.count (session.operatorCount handle))
  | .setVariable var value => .unchanged (session.setVariable var value) .done

end Session
end KernelJit
