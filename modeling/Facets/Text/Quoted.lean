import Facets.Text.Extender
import Facets.Text.Unprintable

/-!
Quoted texts. Quotes, backslashes and the common controls are written with a backslash, characters
that could not be seen by their code points, and all others as they are.
-/

namespace Facets.Text

/-- The code point of a character in braces, in lower-case hexadecimal. -/
def codePoint (c : Char) : List Char :=
  ['\\', 'u', '\x7b'] ++ Nat.toDigits 16 c.toNat ++ ['\x7d']

/-- A character as it is written between quotes. -/
def escape (c : Char) : List Char :=
  match c.toNat with
  | 0 => ['\\', '0']
  | 9 => ['\\', 't']
  | 10 => ['\\', 'n']
  | 13 => ['\\', 'r']
  | 34 => ['\\', c]
  | 92 => ['\\', c]
  | _ => if isExtender c || isUnprintable c then codePoint c else [c]

/-- A text in quotes. -/
def quote (text : String) : String :=
  "\"" ++ String.ofList (text.toList.flatMap escape) ++ "\""

end Facets.Text
