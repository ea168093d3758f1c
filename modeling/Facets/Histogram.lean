import Facets.Ascending
import Facets.Label
import Facets.Number.Key
import Facets.Number.Shortest

/-!
Histograms: the buckets of a field that hold documents of a result set, with their counts, in
ascending order of ordinals until they are sorted by amount. Operations that need labels take the
dictionary to look them up in.
-/

namespace Facets

/-- How numbers are shown: whether as whole numbers, and what stands between the ends of a range. -/
structure NumberFormat where
  integer : Bool
  rangeSeparator : String
  deriving DecidableEq, Repr

/-- A number as it is shown. Whole numbers are rounded and cut off at 64 bits; NaN and the
infinities keep their names. -/
def NumberFormat.number (format : NumberFormat) (x : Float) : String :=
  if format.integer && x.isFinite then
    toString (Number.toInt64 Number.roundHalfAway x).toInt
  else Number.toText x

/-- What a bucket stands for: a range of numbers, one number, or a term. -/
inductive Descriptor where
  | range (start stop : Float)
  | value (x : Float)
  | label (label : Label)

structure Bucket where
  ordinal : Ordinal
  descriptor : Descriptor
  count : Nat

namespace Bucket

/-- The text of a range; ends that look the same are written once. -/
def rangeText (format : NumberFormat) (start stop : Float) : String :=
  let first := format.number start
  let last := format.number stop
  if first = last then first else first ++ format.rangeSeparator ++ last

/-- The text of a bucket without its count. -/
def renderValue (dictionary : Dictionary) (format : NumberFormat) (bucket : Bucket) :
    Attempt Bucket String :=
  match bucket.descriptor with
  | .range start stop => .succeed bucket (rangeText format start stop)
  | .value x => .succeed bucket (format.number x)
  | .label label =>
    (label.resolve dictionary).mapAfter fun label => { bucket with descriptor := .label label }

/-- The text of a bucket with its count in parentheses. -/
def render (dictionary : Dictionary) (format : NumberFormat) (bucket : Bucket) :
    Attempt Bucket String :=
  (bucket.renderValue dictionary format).map fun text =>
    text ++ " (" ++ toString bucket.count ++ ")"

def amount? (dictionary : Dictionary) (bucket : Bucket) : Attempt Bucket (Option Float) :=
  match bucket.descriptor with
  | .label label =>
    (label.amount? dictionary).mapAfter fun label => { bucket with descriptor := .label label }
  | _ => .succeed bucket none

end Bucket

structure Histogram where
  field : String
  mode : Mode
  buckets : List Bucket
  format : NumberFormat

namespace Histogram

/-- Whether one amount may stand before another: larger amounts first, and buckets without an amount
after all others. -/
def mayPrecede : Option Float → Option Float → Bool
  | some x, some y => ValueKey.ofValue y ≤ ValueKey.ofValue x
  | some _, none => true
  | none, some _ => false
  | none, none => true

def total (histogram : Histogram) : Nat :=
  histogram.buckets.foldr (fun bucket rest => bucket.count + rest) 0

def ordinals (histogram : Histogram) : List Ordinal :=
  Ascending.ofList (histogram.buckets.map (·.ordinal))

/-- The bucket of an ordinal; empty buckets are not there. -/
def bucket? (histogram : Histogram) (ordinal : Ordinal) : Option Bucket :=
  histogram.buckets.find? (·.ordinal == ordinal)

def count (histogram : Histogram) (ordinal : Ordinal) : Nat :=
  ((histogram.bucket? ordinal).map (·.count)).getD 0

/-- The texts of all buckets with their values alone, in a given format. -/
def renderValues (dictionary : Dictionary) (format : NumberFormat) (histogram : Histogram) :
    Attempt Histogram (List String) :=
  (Attempt.each (Bucket.renderValue dictionary format) histogram.buckets).mapAfter
    fun buckets => { histogram with buckets }

def renderAll (dictionary : Dictionary) (histogram : Histogram) :
    Attempt Histogram (List String) :=
  (Attempt.each (Bucket.render dictionary histogram.format) histogram.buckets).mapAfter
    fun buckets => { histogram with buckets }

/-- Buckets in descending order of their amounts. Buckets of the same amount keep their order, and so
do those without one, which come last. -/
def orderByAmount (amounts : List (Option Float)) (buckets : List Bucket) : List Bucket :=
  ((amounts.zip buckets).mergeSort fun a b => mayPrecede a.1 b.1).map (·.2)

/-- Sorts buckets by the amounts their labels name. Nothing moves if a label does not resolve. -/
def sortByMoney (dictionary : Dictionary) (histogram : Histogram) : Attempt Histogram Unit :=
  let amounts := Attempt.each (Bucket.amount? dictionary) histogram.buckets
  match amounts.result with
  | .error error => ⟨.error error, { histogram with buckets := amounts.after }, amounts.events⟩
  | .ok values =>
    ⟨.ok (), { histogram with buckets := orderByAmount values amounts.after }, amounts.events⟩

end Histogram

end Facets
