/-
The compiler backend: whatever turns a request into a program.

Nothing is assumed of a backend.  Its answer may depend on the requests it has had
before, so that it can compile, fail and crash as it likes, and it may tag its
program with another device or variant than it was asked for.  A backend that is a
function of the request alone is one whose answer ignores the earlier requests.
-/
import KernelJit.Failure
import KernelJit.Program

namespace KernelJit

/-- A backend, with the requests that it has had. -/
structure Backend where
  name : String
  /-- The answer to a request, given the earlier ones, the oldest first. -/
  answer : List Request → Request → Outcome Program
  /-- The requests so far, the oldest first. -/
  received : List Request := []

namespace Backend

/-- Ask the backend for a program. -/
def call (backend : Backend) (request : Request) : Outcome Program × Backend :=
  (backend.answer backend.received request,
    { backend with received := backend.received ++ [request] })

/-- The backend of a library that was built without a compiler: it fails every
request as a toolchain would. -/
def disabled : Backend where
  name := "disabled"
  answer _ request := .failed (.compilationFailed request.name
    "built without the `cuda` feature; no JIT compiler available")

end Backend

end KernelJit
