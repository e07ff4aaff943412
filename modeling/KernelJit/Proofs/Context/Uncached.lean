/-
A context without a cache, and what is seen of a context by value.

`Uncached` does what a context does, but it has every program compiled anew.  It has the
backend called for every request that is made and tags each program with the
fingerprint of its request.  Programs and operators are objects here as well; the
numbers differ from those of a context with a cache, and so do the events, so the two
are compared by what is `Seen` of them: how calls end and what is registered, with the
contents of operators in place of their identities.
-/
import KernelJit.Proofs.Context.Call

namespace KernelJit

/-- An operator without the identity of its program. -/
structure Operator.Content where
  program : Program
  aggregation : Aggregation
  reducer : Reducer
deriving DecidableEq

def Operator.content (operator : Operator) : Operator.Content :=
  { program := operator.program.value
    aggregation := operator.aggregation
    reducer := operator.reducer }

/-- A registered name with the content of its operator. -/
def Registry.content (entry : String × Shared Operator) : String × Operator.Content :=
  (entry.1, entry.2.value.content)

/-- The names of a registry with the contents of their operators. -/
def Registry.contents (registry : Registry) : List (String × Operator.Content) :=
  registry.entries.map content

/-- What is seen of a call: how it ended, and what is registered after it. -/
structure Seen where
  ending : Outcome Operator.Content
  registered : List (String × Operator.Content)
deriving DecidableEq

/-- What is seen of the calls that a context takes one after the other. -/
def Context.seen (context : Context) (calls : List Call) : List Seen :=
  (context.history calls).map fun turn =>
    { ending := turn.step.result.map (·.value.content)
      registered := turn.step.state.operators.contents }

/-- A context that keeps no programs. -/
structure Uncached where
  device : UInt32
  options : Options
  backend : Backend
  operators : Registry := .empty
  /-- How many programs have been made; the number of the next one. -/
  made : Nat := 0

namespace Uncached

/-- A context without operators. -/
def create (device : UInt32) (options : Options) (backend : Backend) : Uncached :=
  { device, options, backend }

/-- Have the program of a request compiled, and tag it with the request's fingerprint. -/
def ask (context : Uncached) (request : Request) : Step Uncached (Outcome (Shared Program)) :=
  let (outcome, backend) := context.backend.call request
  .unchanged { context with backend, made := context.made + 1 } <|
    outcome.map fun program =>
      { id := context.made, value := program.tag (Fingerprint.ofRequest request) }

/-- Register the operator that a call makes of a program, if there is one. -/
def finish (context : Uncached) (call : Call) :
    Outcome (Shared Program) → Step Uncached (Outcome (Shared Operator))
  | .done program =>
    .unchanged
      { context with
        operators := (context.operators.insert call.name (call.operator program)).2 }
      (.done { id := context.operators.registered, value := call.operator program })
  | .failed failure => .unchanged context (.failed failure)
  | .crashed text => .unchanged context (.crashed text)

/-- Carry out a call.  The events are left out. -/
def call (context : Uncached) (call : Call) : Step Uncached (Outcome (Shared Operator)) :=
  match call.prepare context.device context.options with
  | .error failure => .unchanged context (.failed failure)
  | .ok request =>
    (context.ask request).state.finish call (context.ask request).result

/-- What is seen of the calls that a context without a cache takes one after the other. -/
def seen (context : Uncached) (calls : List Call) : List Seen :=
  (Run.turns call context calls).map fun turn =>
    { ending := turn.step.result.map (·.value.content)
      registered := turn.step.state.operators.contents }

end Uncached

/-! ## Registries with the same contents -/

namespace Registry

theorem map_content_place {a b : List (String × Shared Operator)} {x y : Shared Operator}
    (h : a.map content = b.map content) (hxy : x.value.content = y.value.content)
    (name : String) : (place name x a).map content = (place name y b).map content := by
  have hnew : content (name, x) = content (name, y) := congrArg (Prod.mk name) hxy
  induction a generalizing b with
  | nil =>
    cases b with
    | nil => exact congrArg (fun entry => [entry]) hnew
    | cons second b => cases h
  | cons first a ih =>
    cases b with
    | nil => cases h
    | cons second b =>
      obtain ⟨hhead, htail⟩ := List.cons_eq_cons.mp h
      have hname : first.1 = second.1 := (Prod.mk.inj hhead).1
      unfold place
      rw [hname]
      by_cases heq : second.1 = name
      · rw [if_pos heq, if_pos heq]
        exact List.cons_eq_cons.mpr ⟨hnew, htail⟩
      · rw [if_neg heq, if_neg heq]
        by_cases hlt : Utf8.precedes name second.1 = true
        · rw [if_pos hlt, if_pos hlt]
          exact List.cons_eq_cons.mpr ⟨hnew, h⟩
        · rw [if_neg hlt, if_neg hlt]
          exact List.cons_eq_cons.mpr ⟨hhead, ih htail⟩

theorem contents_insert {a b : Registry} {x y : Operator} (h : a.contents = b.contents)
    (hxy : x.content = y.content) (name : String) :
    (a.insert name x).2.contents = (b.insert name y).2.contents :=
  map_content_place h hxy name

end Registry
end KernelJit
