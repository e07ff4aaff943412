/-
One operation on a state.

Whatever works on a cache, a context or a session answers with a `Step`: the
result, the state after it, and the events on the way.
-/
import KernelJit.Event

namespace KernelJit

/-- What one operation leaves behind. -/
structure Step (σ α : Type) where
  result : α
  state : σ
  /-- What happened on the way, in order. -/
  trace : List Event

namespace Step

/-- A result without any change. -/
def unchanged {σ α : Type} (state : σ) (result : α) : Step σ α :=
  { result, state, trace := [] }

/-- The same step, with another result. -/
def map {σ α β : Type} (f : α → β) (step : Step σ α) : Step σ β :=
  { result := f step.result, state := step.state, trace := step.trace }

/-- The same step, after some events. -/
def after {σ α : Type} (trace : List Event) (step : Step σ α) : Step σ α :=
  { step with trace := trace ++ step.trace }

end Step

end KernelJit
