import Facets.Json.Basic

/-!
Writing JSON on one line, without blanks. Characters outside printable ASCII are written as escapes.
-/

namespace Facets

/-- The last four hexadecimal digits of a number. -/
def Json.hex4 (n : Nat) : List Char :=
  [n / 4096 % 16, n / 256 % 16, n / 16 % 16, n % 16].map Nat.digitChar

namespace Json

/-- A character as it is written in a string; beyond the first plane as a surrogate pair. -/
def escape (c : Char) : List Char :=
  let n := c.toNat
  if n = 34 ∨ n = 92 then ['\\', c]
  else if 0x20 ≤ n ∧ n < 0x7f then [c]
  else if n < 0x10000 then '\\' :: 'u' :: hex4 n
  else
    let rest := n - 0x10000
    '\\' :: 'u' :: hex4 (0xd800 + rest / 0x400) ++ '\\' :: 'u' :: hex4 (0xdc00 + rest % 0x400)

def quote (s : String) : List Char := '\"' :: (s.toList.flatMap escape ++ ['\"'])

end Json

def JsonNumber.render (n : JsonNumber) : List Char :=
  (if n.negative then ['-'] else []) ++ (toString n.digits).toList ++
    (if n.whole then [] else 'e' :: (toString n.exponent).toList)

namespace Json

mutual

def render : Json → List Char
  | .null => ['n', 'u', 'l', 'l']
  | .bool true => ['t', 'r', 'u', 'e']
  | .bool false => ['f', 'a', 'l', 's', 'e']
  | .number n => n.render
  | .text s => quote s
  | .array [] => ['[', ']']
  | .array (first :: others) => '[' :: (first.render ++ renderElements others)
  | .object [] => ['\x7b', '\x7d']
  | .object ((key, first) :: others) =>
    '\x7b' :: (quote key ++ ':' :: (first.render ++ renderMembers others))

def renderElements : List Json → List Char
  | [] => [']']
  | first :: others => ',' :: (first.render ++ renderElements others)

def renderMembers : List (String × Json) → List Char
  | [] => ['\x7d']
  | (key, first) :: others => ',' :: (quote key ++ ':' :: (first.render ++ renderMembers others))

end

def toText (json : Json) : String := String.ofList json.render

end Json

end Facets
