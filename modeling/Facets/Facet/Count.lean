import Facets.Facet.Buckets

/-!
Counting: the histogram of a facet over a result set. A linear facet first fits its scale to the
result set and keeps it for later narrowing; an exact one ranks the distinct values; an enumerated
one counts ordinals, whatever its mode.
-/

namespace Facets.Facet

def histogram (facet : Facet) (buckets : List Bucket) : Histogram where
  field := facet.field
  mode := facet.mode
  buckets := buckets
  format := facet.format

def countOnScale (facet : Facet) (reader : Reader Int64) (scale : NumberScale)
    (memory : FacetMemory) (hits : Hits) (plan : Plan) (trace : Trace) : Sweep (List Bucket) :=
  match facet.scanNumbers reader memory.openings plan with
  | .error error => .failed error memory.opened hits.length trace
  | .ok scan =>
    let buckets := Buckets.ofScan (fun x => some (scale.bucketOf x)) scan
    { result := .ok (buckets.tally fun ordinal =>
        let (start, stop) := scale.shown facet.traits.kind scan.values ordinal
        some (.range start stop))
      memory := memory.opened
      visited := hits.length
      matched := buckets.matched
      trace := trace ++ scan.trace facet.field }

def countExact (facet : Facet) (reader : Reader Int64) (memory : FacetMemory) (hits : Hits)
    (plan : Plan) : Sweep (List Bucket) :=
  match facet.scanNumbers reader memory.openings plan with
  | .error error => .failed error memory.opened hits.length []
  | .ok scan =>
    let table := RankTable.ofValues scan.values
    let buckets := Buckets.ofScan table.rank? scan
    { result := .ok (buckets.tally fun ordinal => (table.valueAt? ordinal).map .value)
      memory := memory.opened
      visited := hits.length
      matched := buckets.matched
      trace := scan.trace facet.field }

/-- Fits a linear scale to a result set and keeps it, then counts on it. -/
def countLinear (facet : Facet) (reader : Reader Int64) (memory : FacetMemory) (hits : Hits)
    (plan : Plan) : Sweep (List Bucket) :=
  match facet.scanNumbers reader memory.openings plan with
  | .error error => .failed error memory.opened 0 []
  | .ok scan =>
    let scale := LinearScale.ofValues facet.traits.kind scan.values
    facet.countOnScale reader (.linear scale) { memory.opened with scale := some scale } hits plan
      (scan.trace facet.field)

def countTerms (facet : Facet) (column : TermColumn) (style : LabelStyle)
    (expander : Option Expander) (memory : FacetMemory) (hits : Hits) (plan : Plan) :
    Sweep (List Bucket) :=
  match scanOrdinals column expander memory facet.field plan with
  | .error error => .failed error memory.opened hits.length []
  | .ok groups =>
    let buckets := Buckets.ofOrdinals groups.scan
    { result := .ok (buckets.tally fun ordinal => some (.label (.fresh ordinal style)))
      memory := { memory.opened with expansions := groups.expansions }
      visited := hits.length
      matched := buckets.matched
      trace := groups.trace }

/-- The histogram of a facet over a result set. Without values it is empty and no pass is made. -/
def count (facet : Facet) (memory : FacetMemory) (hits : Hits) : Pass Histogram :=
  let plan := facet.plan hits
  let pass (sweep : Sweep (List Bucket)) : Pass Histogram :=
    let pass := sweep.toPass .counting facet.field plan
    { pass with result := pass.result.map facet.histogram }
  match facet.source, facet.mode with
  | .absent, _ => ⟨.ok (facet.histogram []), memory, []⟩
  | .numeric reader, .linear => pass (facet.countLinear reader memory hits plan)
  | .numeric reader, .log => pass (facet.countOnScale reader .log memory hits plan [])
  | .numeric reader, .exact => pass (facet.countExact reader memory hits plan)
  | .enumerated column style _ expander, _ =>
    pass (facet.countTerms column style expander memory hits plan)

end Facets.Facet
