import Facets.Facet.Buckets

/-!
Narrowing: the hits of a result set that fall into at least one of the wanted buckets, in the order
of the result set and with their scores. Buckets are the ones counting assigns: a linear facet uses
the scale it remembers, and fits one to the result set only if it has none; an exact one ranks the
distinct values of the result set first. If no wanted bucket exists, nothing is visited.
-/

namespace Facets.Facet

def pick (hits : Hits) (buckets : Buckets) (wanted : List Ordinal) (memory : FacetMemory)
    (trace : Trace) : Sweep Hits :=
  let picked := hits.atPositions (buckets.positionsIn wanted)
  { result := .ok picked
    memory := memory
    visited := hits.length
    matched := picked.length
    trace := trace }

def pickNone (memory : FacetMemory) (trace : Trace) : Sweep Hits := ⟨.ok [], memory, 0, 0, trace⟩

def narrowOnScale (facet : Facet) (reader : Reader Int64) (scale : NumberScale)
    (memory : FacetMemory) (hits : Hits) (ordinals : List Ordinal) (plan : Plan) (trace : Trace) :
    Sweep Hits :=
  let wanted := ordinals.filter (· < scale.size)
  if wanted.isEmpty then pickNone memory trace
  else
    match facet.scanNumbers reader memory.openings plan with
    | .error error => .failed error memory.opened hits.length trace
    | .ok scan =>
      pick hits (Buckets.ofScan (fun x => some (scale.bucketOf x)) scan) wanted memory.opened
        (trace ++ scan.trace facet.field)

/-- Narrows to ranks among the distinct values of the result set, which are read beforehand. -/
def narrowExact (facet : Facet) (reader : Reader Int64) (memory : FacetMemory) (hits : Hits)
    (ordinals : List Ordinal) (plan : Plan) : Sweep Hits :=
  match facet.scanNumbers reader memory.openings plan with
  | .error error => .failed error memory.opened 0 []
  | .ok first =>
    let table := RankTable.ofValues first.values
    let wanted := ordinals.filter (· < table.size)
    if wanted.isEmpty then pickNone memory.opened (first.trace facet.field)
    else
      match facet.scanNumbers reader memory.opened.openings plan with
      | .error error =>
        .failed error memory.opened.opened hits.length (first.trace facet.field)
      | .ok second =>
        pick hits (Buckets.ofScan table.rank? second) wanted memory.opened.opened
          (first.trace facet.field ++ second.trace facet.field)

/-- Narrows on the remembered linear scale, or on one fitted to the result set and kept. -/
def narrowLinear (facet : Facet) (reader : Reader Int64) (memory : FacetMemory) (hits : Hits)
    (ordinals : List Ordinal) (plan : Plan) : Sweep Hits :=
  match memory.scale with
  | some scale => facet.narrowOnScale reader (.linear scale) memory hits ordinals plan []
  | none =>
    match facet.scanNumbers reader memory.openings plan with
    | .error error => .failed error memory.opened 0 []
    | .ok scan =>
      let scale := LinearScale.ofValues facet.traits.kind scan.values
      facet.narrowOnScale reader (.linear scale) { memory.opened with scale := some scale } hits
        ordinals plan (scan.trace facet.field)

def narrowTerms (facet : Facet) (column : TermColumn) (expander : Option Expander)
    (memory : FacetMemory) (hits : Hits) (ordinals : List Ordinal) (plan : Plan) : Sweep Hits :=
  let wanted := ordinals.filter (· < column.size)
  if wanted.isEmpty then pickNone memory []
  else
    match scanOrdinals column expander memory facet.field plan with
    | .error error => .failed error memory.opened hits.length []
    | .ok groups =>
      pick hits (Buckets.ofOrdinals groups.scan) wanted
        { memory.opened with expansions := groups.expansions } groups.trace

/-- The hits of a result set in at least one of the given buckets. Without values there are none and
no pass is made. -/
def narrow (facet : Facet) (memory : FacetMemory) (hits : Hits) (ordinals : List Ordinal) :
    Pass Hits :=
  let plan := facet.plan hits
  let pass (sweep : Sweep Hits) : Pass Hits := sweep.toPass .narrowing facet.field plan
  match facet.source, facet.mode with
  | .absent, _ => ⟨.ok [], memory, []⟩
  | .numeric reader, .linear => pass (facet.narrowLinear reader memory hits ordinals plan)
  | .numeric reader, .log =>
    pass (facet.narrowOnScale reader .log memory hits ordinals plan [])
  | .numeric reader, .exact => pass (facet.narrowExact reader memory hits ordinals plan)
  | .enumerated column _ _ expander, _ =>
    pass (facet.narrowTerms column expander memory hits ordinals plan)

end Facets.Facet
