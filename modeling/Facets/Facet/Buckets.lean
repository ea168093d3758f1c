import Facets.Facet.Pass
import Facets.Scale.Log
import Facets.Scale.Ranks

/-!
From readings to buckets. Each document falls into the buckets of its values, into none twice;
counting adds up the documents of each bucket, and narrowing picks the documents of some buckets.
-/

namespace Facets

/-- A scale that gives every number a bucket by itself. -/
inductive NumberScale where
  | log
  | linear (scale : LinearScale)

namespace NumberScale

def size : NumberScale → Nat
  | .log => LogScale.size
  | .linear _ => LinearScale.size

def bucketOf : NumberScale → Float → Ordinal
  | .log, x => LogScale.bucketOf x
  | .linear scale, x => scale.bucketOf x

/-- The numbers shown for a bucket, given all values of the pass. On an integer field a linear
bucket shows the lowest and the highest value it holds. -/
def shown (kind : NumberKind) (values : List Float) : NumberScale → Ordinal → Float × Float
  | .log, ordinal => LogScale.edges ordinal
  | .linear scale, ordinal =>
    let held := values.filter fun x => x.isFinite && scale.bucketOf x == ordinal
    match kind, Number.extremes? held with
    | .integer, some ends => ends
    | _, _ => scale.edges ordinal (.ofValues values)

end NumberScale

/-- The buckets of each document by the position of its hit. -/
abbrev Buckets := List (Nat × List Ordinal)

namespace Buckets

/-- The buckets that a rule assigns to the values of each reading. -/
def ofScan {α : Type} (bucketOf? : α → Option Ordinal) (scan : Scan α) : Buckets :=
  scan.map fun (position, reading) =>
    (position, Ascending.ofList (reading.values.filterMap bucketOf?))

/-- The readings of ordinals, which are their own buckets. -/
def ofOrdinals (scan : Scan Ordinal) : Buckets :=
  scan.map fun (position, reading) => (position, reading.values)

def occupied (buckets : Buckets) : List Ordinal := Ascending.ofList (buckets.flatMap (·.2))

def count (buckets : Buckets) (ordinal : Ordinal) : Nat :=
  buckets.countP fun document => document.2.contains ordinal

def matched (buckets : Buckets) : Nat := buckets.countP fun document => !document.2.isEmpty

/-- The histogram of the occupied buckets, each described by a rule. -/
def tally (buckets : Buckets) (describe : Ordinal → Option Descriptor) : List Bucket :=
  buckets.occupied.filterMap fun ordinal =>
    (describe ordinal).map fun descriptor => ⟨ordinal, descriptor, buckets.count ordinal⟩

/-- The positions of the documents in at least one wanted bucket, ascending. -/
def positionsIn (buckets : Buckets) (wanted : List Ordinal) : List Nat :=
  Ascending.ofList (buckets.filterMap fun (position, ordinals) =>
    if ordinals.any wanted.contains then some position else none)

end Buckets

end Facets
