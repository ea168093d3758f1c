import Facets.Number.Exact

/-!
JSON documents. A number keeps what its text says: the digits, where the decimal point stands, and
whether it was written as an integer, since `1` and `1.0` are not the same to every reader. Members
of an object keep their order and their repetitions.
-/

namespace Facets

/-- A number as it was written: `± digits · 10 ^ exponent`. -/
structure JsonNumber where
  negative : Bool
  digits : Nat
  exponent : Int
  /-- Whether it was written with neither a fraction nor an exponent. -/
  whole : Bool
  deriving DecidableEq, Repr, Inhabited

inductive Json where
  | null
  | bool (b : Bool)
  | number (n : JsonNumber)
  | text (s : String)
  | array (elements : List Json)
  | object (members : List (String × Json))
  deriving Repr, Inhabited

namespace JsonNumber

def ofInt (n : Int) : JsonNumber := ⟨n < 0, n.natAbs, 0, true⟩

/-- The integer a number was written as. Minus zero is a fractional number. -/
def toInt? (n : JsonNumber) : Option Int :=
  if n.whole && !(n.negative && n.digits == 0) then
    some (if n.negative then -(n.digits : Int) else n.digits)
  else none

def toFloat (n : JsonNumber) : Float :=
  let size := Number.ofDecimal n.digits n.exponent
  if n.negative then -size else size

end JsonNumber

namespace Json

def ofNat (n : Nat) : Json := .number (.ofInt n)

def ofInt (n : Int) : Json := .number (.ofInt n)

def toInt? : Json → Option Int
  | .number n => n.toInt?
  | _ => none

/-- An integer that fits 32 bits without a sign. -/
def toWord? (json : Json) : Option Nat := do
  let n ← json.toInt?
  if 0 ≤ n ∧ n < 4294967296 then some n.toNat else none

def text? : Json → Option String
  | .text s => some s
  | _ => none

def bool? : Json → Option Bool
  | .bool b => some b
  | _ => none

def array? : Json → Option (List Json)
  | .array elements => some elements
  | _ => none

def members? : Json → Option (List (String × Json))
  | .object members => some members
  | _ => none

/-- The value of a key; of a repeated key the last one. -/
def field? (key : String) : Json → Option Json
  | .object members => (members.reverse.find? fun member => member.1 == key).map (·.2)
  | _ => none

end Json

end Facets
