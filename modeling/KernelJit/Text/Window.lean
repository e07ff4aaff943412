/-
The text near a marker: at most thirty bytes of a source, cut between characters.

A window begins at a character boundary and ends at the last boundary that is no
more than `Window.reach` bytes further on.  Its bytes are therefore the encoding
of some text, and `windowAt` returns that text; at a position inside a character
there is no such text, and the window is empty.
-/
import KernelJit.Text.Boundary

namespace KernelJit
namespace Window

/-- The number of bytes looked at from the start of a marker on. -/
def reach : Nat := 30

/-- Where the window that starts at `start` ends. -/
def stop (bytes : List UInt8) (start : Nat) : Nat :=
  Utf8.floorBoundary bytes (min (start + reach) bytes.length)

/-- The bytes of the window that starts at `start`. -/
def bytesAt (bytes : List UInt8) (start : Nat) : List UInt8 :=
  (bytes.take (stop bytes start)).drop start

/-- The window of `source` that starts at byte `start`. -/
def windowAt (source : String) (start : Nat) : String :=
  (Utf8.decode? (bytesAt (Utf8.encode source) start)).getD ""

/-! ## Windows at boundaries -/

theorem stop_le_length (bytes : List UInt8) (start : Nat) : stop bytes start ≤ bytes.length :=
  Nat.le_trans (Utf8.floorBoundary_le _ _) (Nat.min_le_right _ _)

theorem stop_le_add (bytes : List UInt8) (start : Nat) : stop bytes start ≤ start + reach :=
  Nat.le_trans (Utf8.floorBoundary_le _ _) (Nat.min_le_left _ _)

theorem isBoundary_stop (bytes : List UInt8) (start : Nat) :
    Utf8.isBoundary bytes (stop bytes start) = true :=
  Utf8.isBoundary_floorBoundary _ _

/-- Stepping back from the end of the window does not pass its start. -/
theorem le_stop {bytes : List UInt8} {start : Nat} (h : Utf8.isBoundary bytes start = true) :
    start ≤ stop bytes start :=
  Utf8.le_floorBoundary h
    (Nat.le_min.mpr ⟨Nat.le_add_right _ _, Utf8.le_length_of_isBoundary h⟩)

/-- The bytes of a window at a boundary are the encoding of its text. -/
theorem encode_windowAt {source : String} {start : Nat}
    (h : Utf8.isBoundary (Utf8.encode source) start = true) :
    Utf8.encode (windowAt source start) = bytesAt (Utf8.encode source) start := by
  obtain ⟨part, hpart⟩ := Utf8.exists_slice_eq_encode h (isBoundary_stop _ start)
  rw [windowAt, bytesAt, hpart, Utf8.decode?_encode]
  rfl

end Window
end KernelJit
