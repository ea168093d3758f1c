import Facets.Number.Exact
import Facets.Scale.Mode

/-!
The logarithmic scale: forty buckets for the powers of ten on both sides of zero. Bucket 20 holds
`(-1, 1]` together with the first decade above it, the buckets around it one decade each, and the
outermost finite ones all that is larger; the infinities and NaN have buckets of their own.

A value belongs to the decade of its common logarithm, and that logarithm is a float: the last few
floats below a power of ten have one that is rounded up to a whole number, and count as having
reached the power. How many they are is a matter of the logarithm; the one used here is measured, and
is not correctly rounded for every float.
-/

namespace Facets.LogScale

def size : Nat := 40

/-- How many floats below each power of ten, from the first to the eighteenth, have a common
logarithm that is rounded up to the power's, as measured. -/
def roundedUp : List Nat := [0, 1, 5, 2, 6, 9, 5, 6, 18, 10, 13, 17, 10, 12, 16, 10, 25, 32]

/-- The distance between neighbouring floats around a number of at least one. -/
def spacing (n : Nat) : Rat := (2 : Rat) ^ ((Nat.log2 n : Int) - 52)

/-- The lowest value with a common logarithm of at least `k`. -/
def lowest (k : Nat) : Rat :=
  let power := Nat.pow 10 k
  power - roundedUp.getD (k - 1) 0 * spacing power

/-- Whether the common logarithm of a value is at least `k`. -/
def reaches (k : Nat) (q : Rat) : Bool := lowest k ≤ q

/-- How many of the powers of ten from the first to the eighteenth a value has reached. -/
def decade (q : Rat) : Nat := (List.range 18).countP fun i => reaches (i + 1) q

def bucketOfRat (q : Rat) : Ordinal :=
  if q ≤ -1 then 19 - decade (-q) else if 1 < q then 20 + min (decade q) 17 else 20

def bucketOf (x : Float) : Ordinal :=
  match x.toModel.unpack with
  | .notANumber => 39
  | .infinity .positive => 38
  | .infinity .negative => 0
  | _ => bucketOfRat (Number.toRat x)

def powerOfTen (k : Nat) : Float := Number.ofDecimal 1 k

/-- The numbers shown for a bucket. They name whole numbers, so a decade ends one below the next
power of ten. -/
def edges (ordinal : Ordinal) : Float × Float :=
  match ordinal with
  | 0 => (-1.0 / 0.0, -1.0 / 0.0)
  | 38 => (1.0 / 0.0, 1.0 / 0.0)
  | 39 => (0.0 / 0.0, 0.0 / 0.0)
  | 20 => (-1.0, 9.0)
  | 19 => (-9.0, -1.0)
  | _ =>
    if ordinal < 20 then (-(powerOfTen (20 - ordinal) - 1.0), -(powerOfTen (19 - ordinal)))
    else (powerOfTen (ordinal - 20), powerOfTen (ordinal - 19) - 1.0)

end Facets.LogScale
