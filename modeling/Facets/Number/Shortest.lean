import Facets.Number.Exact

/-!
The shortest decimals that read back. A finite float is the centre of the interval of rationals that
round to it, whose ends belong to it when its mantissa is even. Grids of powers of ten are tried from
the coarsest on, and of the first one that meets the interval the point nearest to the float is
taken; of two equally near ones the larger.
-/

namespace Facets.Number

/-- The rationals that round to one float. -/
structure Interval where
  centre : Rat
  low : Rat
  high : Rat
  closed : Bool

namespace Interval

def contains (interval : Interval) (q : Rat) : Bool :=
  (interval.low < q && q < interval.high) ||
    (interval.closed && (q == interval.low || q == interval.high))

/-- The rationals that round to the positive double `mantissa · 2 ^ exponent`. Below a power of two
the next double is half as far away, except at the bottom of the range. -/
def ofDouble (mantissa : Nat) (exponent : Int) : Interval :=
  let half : Rat := 2 ^ (exponent - 1)
  let centre : Rat := mantissa * 2 ^ exponent
  { centre
    low := if mantissa = 1 <<< 52 ∧ -1074 < exponent then centre - half / 2 else centre - half
    high := centre + half
    closed := mantissa % 2 == 0 }

/-- Of the two multiples of `step` around the centre, the nearer one that lies in the interval. -/
def onGrid? (interval : Interval) (step : Rat) : Option Int :=
  let below := (interval.centre / step).floor
  let above := below + 1
  match interval.contains (below * step), interval.contains (above * step) with
  | true, true =>
    if interval.centre - below * step < above * step - interval.centre then some below
    else some above
  | true, false => some below
  | false, true => some above
  | false, false => none

end Interval

/-- The exponent `k` with `10 ^ (k - 1) ≤ q < 10 ^ k`, for a positive rational. -/
def decimalExponent (q : Rat) : Int :=
  let digits (n : Nat) : Int := (Nat.toDigits 10 n).length
  let guess := digits q.num.natAbs - digits q.den
  if q < (10 : Rat) ^ guess then guess else guess + 1

/-- A decimal `digits · 10 ^ exponent`. -/
structure Decimal where
  digits : Nat
  exponent : Int
  deriving DecidableEq, Repr

/-- The decimal on the coarsest grid that meets the interval: the grids tried are those of `length`
digits below `10 ^ top` and up to `budget` more. -/
def Interval.search (interval : Interval) (top : Int) : (budget length : Nat) → Decimal
  | 0, length => ⟨(interval.centre / (10 : Rat) ^ (top - length)).floor.toNat, top - length⟩
  | budget + 1, length =>
    match interval.onGrid? ((10 : Rat) ^ (top - length)) with
    | some n => ⟨n.toNat, top - length⟩
    | none => interval.search top budget (length + 1)

/-- The shortest decimal that reads back as the positive double `mantissa · 2 ^ exponent`. Seventeen
digits always suffice. -/
def shortest (mantissa : Nat) (exponent : Int) : Decimal :=
  let interval := Interval.ofDouble mantissa exponent
  interval.search (decimalExponent interval.centre) 18 0

/-- A decimal written positionally, without an exponent and without a fraction that is zero. -/
def Decimal.positional (d : Decimal) : String :=
  let text := Nat.toDigits 10 d.digits
  if 0 ≤ d.exponent then String.ofList (text ++ List.replicate d.exponent.toNat '0')
  else
    let places := d.exponent.natAbs
    if places < text.length then
      String.ofList (text.take (text.length - places) ++ '.' :: text.drop (text.length - places))
    else String.ofList ('0' :: '.' :: (List.replicate (places - text.length) '0' ++ text))

/-- A float in its fewest digits, positionally. -/
def toText (x : Float) : String :=
  match x.toModel.unpack with
  | .notANumber => "NaN"
  | .infinity .positive => "Infinity"
  | .infinity .negative => "-Infinity"
  | .zero .positive => "0"
  | .zero .negative => "-0"
  | .finite .positive mantissa exponent _ => (shortest mantissa exponent).positional
  | .finite .negative mantissa exponent _ => "-" ++ (shortest mantissa exponent).positional

end Facets.Number
