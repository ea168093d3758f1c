import Facets.Number.Exact

/-!
Amounts of money in labels such as `$1,234.50` or `R$ 1.234,50`. Only digits, points and commas
count. The last point or comma is the decimal mark if one or two digits follow it; all others group
digits. An amount is negative if the label starts with a minus sign.
-/

namespace Facets

/-- Whether a character is white space, by the Unicode property `White_Space`. -/
def Text.isSpace (c : Char) : Bool :=
  let n := c.toNat
  (9 ≤ n && n ≤ 13) || n == 0x20 || n == 0x85 || n == 0xa0 || n == 0x1680 ||
    (0x2000 ≤ n && n ≤ 0x200a) || n == 0x2028 || n == 0x2029 || n == 0x202f || n == 0x205f ||
    n == 0x3000

namespace Money

/-- The characters of a label that spell its amount. -/
def spelled (label : List Char) : List Char :=
  label.filter fun c => c.isDigit || c == '.' || c == ','

/-- How many of the digits of a spelled amount are decimals. -/
def decimals (amount : List Char) : Nat :=
  let after := (amount.reverse.takeWhile Char.isDigit).length
  if after < amount.length ∧ 1 ≤ after ∧ after ≤ 2 then after else 0

def digitsValue (digits : List Char) : Nat :=
  digits.foldl (fun n c => 10 * n + (c.toNat - 48)) 0

def isNegative (label : List Char) : Bool := (label.dropWhile Text.isSpace).head? == some '-'

/-- The amount that a label names, if it has a digit. -/
def amount? (label : String) : Option Float :=
  let spelling := spelled label.toList
  let digits := spelling.filter Char.isDigit
  if digits.isEmpty then none
  else
    let size := Number.ofDecimal (digitsValue digits) (-(decimals spelling : Int))
    some (if isNegative label.toList then -size else size)

end Money

end Facets
