import Facets.Number.Kind
import Facets.Number.Key
import Facets.Scale.Mode

/-!
The linear scale: ten buckets of equal width between the lowest and the highest finite value. On an
integer field every bucket also has a range of whole numbers, each starting right after the one
before ends, and a value moves to a neighbouring bucket if that one's range holds it.
-/

namespace Facets

/-- A range of whole numbers, both ends included. -/
structure WholeRange where
  first : Int64
  last : Int64
  deriving DecidableEq, Repr

def WholeRange.contains (range : WholeRange) (n : Int64) : Bool := range.first ≤ n && n ≤ range.last

/-- Which of the special values a pass has met. -/
structure Specials where
  negativeInfinity : Bool
  positiveInfinity : Bool
  nan : Bool
  deriving DecidableEq, Repr

namespace Specials

def none : Specials := ⟨false, false, false⟩

def isNegativeInfinity (x : Float) : Bool := x.isInf && x < 0.0

def isPositiveInfinity (x : Float) : Bool := x.isInf && 0.0 < x

def ofValues (xs : List Float) : Specials where
  negativeInfinity := xs.any isNegativeInfinity
  positiveInfinity := xs.any isPositiveInfinity
  nan := xs.any (·.isNaN)

end Specials

/-- A linear scale between two values, for a field of some kind. -/
structure LinearScale where
  low : Float
  high : Float
  kind : NumberKind

namespace LinearScale

def size : Nat := 10

/-- The scale that spans the finite values of a list, or that of the point zero if there are none. -/
def ofValues (kind : NumberKind) (xs : List Float) : LinearScale :=
  match Number.extremes? (xs.filter (·.isFinite)) with
  | some (low, high) => ⟨low, high, kind⟩
  | none => ⟨0.0, 0.0, kind⟩

def collapsed (scale : LinearScale) : Bool := scale.low ≥ scale.high

def width (scale : LinearScale) : Float :=
  if scale.collapsed then 1.0 else (scale.high - scale.low) / 10.0

/-- The whole number at which the range of a bucket ends. -/
def lastOf (scale : LinearScale) (ordinal : Ordinal) : Int64 :=
  Number.toInt64 Rat.ceil (Number.ofInt (ordinal + 1) * scale.width + scale.low)

/-- The whole number at which the range of a bucket starts: the one after the range before. -/
def firstOf (scale : LinearScale) : Ordinal → Int64
  | 0 => Number.toInt64 Rat.floor scale.low
  | ordinal + 1 => Int64.ofIntClamp ((scale.lastOf ordinal).toInt + 1)

def rangeOf (scale : LinearScale) (ordinal : Ordinal) : WholeRange :=
  ⟨scale.firstOf ordinal, scale.lastOf ordinal⟩

/-- The ranges of whole numbers of all buckets, on an integer field. -/
def ranges? (scale : LinearScale) : Option (List WholeRange) :=
  if scale.kind = .integer then some ((List.range size).map scale.rangeOf) else none

/-- How many of the boundaries 1 to 9 a distance counted in widths has reached. A distance that is
not a number has reached none. -/
def boundariesReached (distance : Float) : Ordinal :=
  (List.range 9).countP fun i : Nat => Number.ofInt (i + 1) ≤ distance

def positionOf (scale : LinearScale) (x : Float) : Ordinal :=
  if x.isNaN || Specials.isPositiveInfinity x then 9
  else if Specials.isNegativeInfinity x then 0
  else boundariesReached ((x - scale.low) / scale.width)

/-- The first of a bucket and its neighbours whose range holds a whole number, or the bucket itself. -/
def snap (scale : LinearScale) (n : Int64) (ordinal : Ordinal) : Ordinal :=
  ([ordinal - 1, ordinal, min (ordinal + 1) 9].find? fun o => (scale.rangeOf o).contains n).getD
    ordinal

def bucketOf (scale : LinearScale) (x : Float) : Ordinal :=
  if scale.kind = .integer ∧ x.isFinite then
    scale.snap (Number.toInt64 Number.truncate x) (scale.positionOf x)
  else scale.positionOf x

/-- The numbers shown for a bucket. Special values that were met widen the outer buckets, and turn
one of a scale without extent into a point. -/
def edges (scale : LinearScale) (ordinal : Ordinal) (specials : Specials) : Float × Float :=
  let start := scale.low + Number.ofInt ordinal * scale.width
  let stop := scale.low + Number.ofInt (ordinal + 1) * scale.width
  let infinity : Float := 1.0 / 0.0
  let nan : Float := 0.0 / 0.0
  if ordinal = 0 ∧ specials.negativeInfinity then
    (-infinity, if scale.collapsed then -infinity else stop)
  else if ordinal = 9 ∧ specials.nan then (if scale.collapsed then nan else start, nan)
  else if ordinal = 9 ∧ specials.positiveInfinity then
    (if scale.collapsed then infinity else start, infinity)
  else (start, stop)

end LinearScale

end Facets
