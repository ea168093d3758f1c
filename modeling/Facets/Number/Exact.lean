/-!
Floats as exact rationals, and the ways of turning a float into an integer or a single. Every finite
float is a rational number; what rounds is said once, on rationals, and 64-bit results are cut off at
the ends of the range. A single is its 32-bit pattern: widening it to a float is exact, narrowing takes
the nearest pattern with ties to even.
-/

namespace Facets.Number

/-- The exact value of a finite float. Infinities and NaN have none and give zero. -/
def toRat (x : Float) : Rat :=
  match x.toModel.unpack with
  | .finite sign mantissa exponent _ => (sign.apply mantissa : Int) * (2 : Rat) ^ exponent
  | _ => 0

/-- The float nearest to an integer, ties to even. -/
def ofInt (n : Int) : Float := .ofModel (.ofInt n)

/-- The float nearest to `digits · 10 ^ exponent`, ties to even. -/
def ofDecimal (digits : Nat) (exponent : Int) : Float := .ofModel (.ofScientific digits exponent)

/-- Reads a float as a 64-bit integer: `toInt` decides for finite values, a value outside the range
goes to the nearer end, and NaN is zero. -/
def toInt64 (toInt : Rat → Int) (x : Float) : Int64 :=
  match x.toModel.unpack with
  | .notANumber => 0
  | .infinity .positive => Int64.maxValue
  | .infinity .negative => Int64.minValue
  | .zero _ => Int64.ofIntClamp (toInt 0)
  | .finite .. => Int64.ofIntClamp (toInt (toRat x))

def truncate (q : Rat) : Int := q.num.tdiv q.den

/-- The nearest integer; a half goes away from zero. -/
def roundHalfAway (q : Rat) : Int :=
  if 0 ≤ q then (q + 1 / 2).floor else -(1 / 2 - q).floor

def widen (pattern : UInt32) : Float :=
  match (Float32.ofBits pattern).toModel.unpack with
  | .finite sign mantissa exponent _ =>
    .ofModel (.pack (.round .binary64 sign mantissa exponent))
  | special => .ofModel (.pack special)

def narrow (x : Float) : UInt32 :=
  match x.toModel.unpack with
  | .finite sign mantissa exponent _ =>
    (Float32.ofModel (.pack (.round .binary32 sign mantissa exponent))).toBits
  | special => (Float32.ofModel (.pack special)).toBits

end Facets.Number
