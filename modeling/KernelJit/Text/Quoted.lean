/-
A text between double quotes, in characters that can be told apart on one line.

The quote, the backslash and the four most common control characters are written
with a backslash and a letter or a zero.  Every other character that cannot be
printed, every one that is drawn as nothing, and every mark that is drawn on the
character before it is written as its code point in hexadecimal.  All other characters
stand for themselves.
-/
import KernelJit.Text.DefaultIgnorable
import KernelJit.Text.GraphemeExtend
import KernelJit.Text.Unprintable

namespace KernelJit
namespace Quoted

/-- The two halfwidth sound marks.  They extend the character before them, but each
takes a place of its own on the line, as the letter before it does. -/
def isHalfwidthSoundMark (c : Char) : Bool :=
  c == '\uFF9E' || c == '\uFF9F'

/-- Whether a character is drawn on the one before it. -/
def isOverlaid (c : Char) : Bool :=
  GraphemeExtend.contains c && !isHalfwidthSoundMark c

/-- Whether a character cannot be told from its neighbours, or from nothing, when it
is written as itself. -/
def isIndistinct (c : Char) : Bool :=
  Unprintable.contains c || DefaultIgnorable.contains c || isOverlaid c

/-- The code point of a character between braces. -/
def codePoint (c : Char) : List Char :=
  ['\\', 'u', '\x7b'] ++ Nat.toDigits 16 c.toNat ++ ['\x7d']

/-- The characters that one character is written as. -/
def escape (c : Char) : List Char :=
  match c with
  | '"' => ['\\', '"']
  | '\\' => ['\\', '\\']
  | '\n' => ['\\', 'n']
  | '\r' => ['\\', 'r']
  | '\t' => ['\\', 't']
  | '\x00' => ['\\', '0']
  | c => if isIndistinct c then codePoint c else [c]

/-- The quoted form of a text. -/
def quote (text : String) : String :=
  "\"" ++ String.ofList (text.toList.flatMap escape) ++ "\""

end Quoted
end KernelJit
