import Facets.Proofs.Except
import Facets.Proofs.Facet.Scans

namespace Facets

namespace Sweep

/-- A count whose buckets are those of some sets, one set for each hit. -/
structure Tallies (sweep : Sweep (List Bucket)) (hits : Hits) (sets : List (Finset Ordinal))
    (describe : Ordinal → Option Descriptor) : Prop where
  result : sweep.result = .ok (Bucket.listOf sets describe)
  visited : sweep.visited = hits.length
  matched : sweep.matched = sets.countP fun set => set.Nonempty

/-- A count that fails with what it could not open, and otherwise has the buckets of some sets. -/
def Counts (sweep : Sweep (List Bucket)) (opens : Except SourceError Unit) (hits : Hits)
    (sets : List (Finset Ordinal)) (describe : Ordinal → Option Descriptor) : Prop :=
  (∃ error, opens = .error error ∧ sweep.result = .error error) ∨
    (opens = .ok () ∧ sweep.Tallies hits sets describe)

end Sweep

namespace Facet

variable {facet : Facet} {hits : Hits} {memory : FacetMemory}

theorem countOnScale_counts {reader : Reader Int64} (numeric : facet.source = .numeric reader)
    {scale : NumberScale} {linear : LinearScale} {trace : Trace}
    (rule : ∀ values, facet.bucketOf linear values = scale.bucketOf)
    (shows : ∀ values ordinal, facet.describes linear values ordinal =
      some (.range (scale.shown facet.traits.kind values ordinal).1
        (scale.shown facet.traits.kind values ordinal).2)) :
    (facet.countOnScale reader scale memory hits (facet.plan hits) trace).Counts
      (facet.opens memory.openings) hits
      (facet.bucketSets (facet.heard memory.openings hits) linear hits)
      (facet.describes linear (facet.values (facet.heard memory.openings hits) hits)) := by
  unfold countOnScale
  obtain ⟨error, closed, read⟩ | ⟨scan, opened, read, follows⟩ :=
    scanNumbers_cases numeric memory.openings hits
  · exact Or.inl ⟨error, closed, by simp only [read, Sweep.failed]⟩
  · refine Or.inr ⟨opened, ?_⟩
    have spread := ofScan_spread_of_follows numeric follows linear
      (facet.values (facet.heard memory.openings hits) hits)
      (fun x => some (scale.bucketOf x)) fun x _ => by rw [rule]
    have shown : (fun ordinal => some (Descriptor.range
          (scale.shown facet.traits.kind scan.values ordinal).1
          (scale.shown facet.traits.kind scan.values ordinal).2)) =
        facet.describes linear (facet.values (facet.heard memory.openings hits) hits) := by
      funext ordinal
      rw [shows, NumberScale.shown_perm _ (values_perm_of_follows follows)]
    simp only [read]
    refine ⟨?_, rfl, spread.matched_eq⟩
    rw [shown, spread.tally_eq]
    rfl

theorem countExact_counts {reader : Reader Int64} (numeric : facet.source = .numeric reader)
    (exact : facet.mode = .exact) (linear : LinearScale) :
    (facet.countExact reader memory hits (facet.plan hits)).Counts
      (facet.opens memory.openings) hits
      (facet.bucketSets (facet.heard memory.openings hits) linear hits)
      (facet.describes linear (facet.values (facet.heard memory.openings hits) hits)) := by
  unfold countExact
  obtain ⟨error, closed, read⟩ | ⟨scan, opened, read, follows⟩ :=
    scanNumbers_cases numeric memory.openings hits
  · exact Or.inl ⟨error, closed, by simp only [read, Sweep.failed]⟩
  · refine Or.inr ⟨opened, ?_⟩
    have table := RankTable.ofValues_perm (values_perm_of_follows follows)
    have spread := ofScan_spread_of_follows numeric follows linear
      (facet.values (facet.heard memory.openings hits) hits)
      (RankTable.ofValues (facet.values (facet.heard memory.openings hits) hits)).rank?
      fun x member => by
        simpa only [bucketOf, exact] using RankTable.rank?_ofValues member
    have shown : (fun ordinal =>
          ((RankTable.ofValues (facet.values (facet.heard memory.openings hits) hits)).valueAt?
            ordinal).map .value) =
        facet.describes linear (facet.values (facet.heard memory.openings hits) hits) := by
      funext ordinal
      simp only [describes, numeric, exact]
    simp only [read, table]
    refine ⟨?_, rfl, spread.matched_eq⟩
    rw [spread.tally_eq, shown]
    rfl

theorem countLinear_counts {reader : Reader Int64} (numeric : facet.source = .numeric reader)
    (linear : facet.mode = .linear) :
    (facet.countLinear reader memory hits (facet.plan hits)).Counts (facet.countOpens memory) hits
      (facet.bucketSets (facet.heard (memory.openings + 1) hits)
        (facet.fit (facet.heard memory.openings hits) hits) hits)
      (facet.describes (facet.fit (facet.heard memory.openings hits) hits)
        (facet.values (facet.heard (memory.openings + 1) hits) hits)) := by
  have fitted : facet.isFitted = true := by simp only [isFitted, numeric, linear]
  unfold countLinear countOpens countingCursor
  simp only [fitted, if_true]
  obtain ⟨error, closed, read⟩ | ⟨scan, opened, read, follows⟩ :=
    scanNumbers_cases numeric memory.openings hits
  · exact Or.inl ⟨error, by rw [closed]; rfl, by simp only [read, Sweep.failed]⟩
  · have fit : LinearScale.ofValues facet.traits.kind scan.values =
        facet.fit (facet.heard memory.openings hits) hits :=
      LinearScale.ofValues_perm _ (values_perm_of_follows follows)
    simp only [opened, Except.bind, read, fit]
    exact countOnScale_counts numeric
      (fun values => by simp only [bucketOf, linear]; rfl)
      (fun values ordinal => by simp only [describes, numeric, linear])

theorem countTerms_counts {column : TermColumn} {style : LabelStyle} {dictionary : Dictionary}
    {expander : Option Expander}
    (enumerated : facet.source = .enumerated column style dictionary expander)
    (faithful : facet.Faithful memory) (linear : LinearScale) :
    (facet.countTerms column style expander memory hits (facet.plan hits)).Counts
      (facet.opens memory.openings) hits
      (facet.bucketSets (facet.heard memory.openings hits) linear hits)
      (facet.describes linear (facet.values (facet.heard memory.openings hits) hits)) := by
  unfold countTerms
  obtain ⟨error, closed, read⟩ | ⟨groups, opened, read, follows, _⟩ :=
    scanOrdinals_cases enumerated faithful hits
  · exact Or.inl ⟨error, closed, by simp only [read, Sweep.failed]⟩
  · refine Or.inr ⟨opened, ?_⟩
    have spread := ofOrdinals_spread_of_follows enumerated follows linear
      (facet.values (facet.heard memory.openings hits) hits)
    have shown : (fun ordinal => some (Descriptor.label (.fresh ordinal style))) =
        facet.describes linear (facet.values (facet.heard memory.openings hits) hits) := by
      funext ordinal
      simp only [describes, enumerated]
    simp only [read]
    refine ⟨?_, rfl, spread.matched_eq⟩
    rw [spread.tally_eq, shown]
    rfl

theorem countingCursor_of_unfitted (unfitted : facet.isFitted = false) :
    facet.countingCursor memory = memory.openings := by
  simp only [countingCursor, unfitted, Bool.false_eq_true, if_false]

theorem countOpens_of_unfitted (unfitted : facet.isFitted = false) :
    facet.countOpens memory = facet.opens memory.openings := by
  rw [countOpens, countingCursor_of_unfitted unfitted]
  cases opened : facet.opens memory.openings with
  | error error => rfl
  | ok _ => rfl

/-- On a facet with values, counting is a pass around a count of the buckets of the hits. -/
theorem count_runs (faithful : facet.Faithful memory) (hits : Hits)
    (present : facet.source ≠ .absent) :
    ∃ sweep : Sweep (List Bucket),
      sweep.Counts (facet.countOpens memory) hits
        (facet.bucketSets (facet.heard (facet.countingCursor memory) hits)
          (facet.fit (facet.heard memory.openings hits) hits) hits)
        (facet.describes (facet.fit (facet.heard memory.openings hits) hits)
          (facet.values (facet.heard (facet.countingCursor memory) hits) hits)) ∧
      facet.count memory hits =
        ⟨sweep.result.map facet.histogram, sweep.memory,
          (sweep.toPass .counting facet.field (facet.plan hits)).trace⟩ := by
  cases source : facet.source with
  | absent => exact absurd source present
  | numeric reader =>
    cases mode : facet.mode with
    | linear =>
      refine ⟨_, ?_, by simp only [count, source, mode]; rfl⟩
      have fitted : facet.isFitted = true := by simp only [isFitted, source, mode]
      simp only [countingCursor, fitted, if_true]
      exact countLinear_counts source mode
    | log =>
      refine ⟨_, ?_, by simp only [count, source, mode]; rfl⟩
      have unfitted : facet.isFitted = false := by simp only [isFitted, source, mode]
      rw [countingCursor_of_unfitted unfitted, countOpens_of_unfitted unfitted]
      exact countOnScale_counts source (fun values => by simp only [bucketOf, mode]; rfl)
        (fun values ordinal => by simp only [describes, source, mode]; rfl)
    | exact =>
      refine ⟨_, ?_, by simp only [count, source, mode]; rfl⟩
      have unfitted : facet.isFitted = false := by simp only [isFitted, source, mode]
      rw [countingCursor_of_unfitted unfitted, countOpens_of_unfitted unfitted]
      exact countExact_counts source mode _
  | enumerated column style dictionary expander =>
    refine ⟨_, ?_, by simp only [count, source]; rfl⟩
    have unfitted : facet.isFitted = false := by simp only [isFitted, source]
    rw [countingCursor_of_unfitted unfitted, countOpens_of_unfitted unfitted]
    exact countTerms_counts source faithful _

theorem reference_absent (absent : facet.source = .absent) (heard : Nat → RowAnswers)
    (scale : LinearScale) (hits : Hits) :
    facet.reference heard scale hits = facet.histogram [] := by
  unfold reference Bucket.listOf
  simp only [describes, absent, Option.map_none, List.filterMap_none]

/-- Counting fails with the first cursor that does not open, and otherwise answers the histogram that
the buckets of the hits make. -/
theorem count_result (faithful : facet.Faithful memory) (hits : Hits) :
    (facet.count memory hits).result = (facet.countOpens memory).map fun _ =>
      facet.reference (facet.heard (facet.countingCursor memory) hits)
        (facet.fit (facet.heard memory.openings hits) hits) hits := by
  by_cases absent : facet.source = .absent
  · have unfitted : facet.isFitted = false := by simp only [isFitted, absent]
    have opened : facet.opens memory.openings = .ok () := by simp only [opens, absent]
    rw [reference_absent absent, countOpens_of_unfitted unfitted, opened]
    simp only [count, absent]
    rfl
  · obtain ⟨sweep, counts, run⟩ := count_runs faithful hits absent
    rw [run]
    obtain ⟨error, closed, failed⟩ | ⟨opened, tallies⟩ := counts
    · simp only [closed, failed]
      rfl
    · simp only [opened, tallies.result]
      rfl

theorem eq_reference_of_counted {memory : FacetMemory} (faithful : facet.Faithful memory)
    {histogram : Histogram} (counted : (facet.count memory hits).result = .ok histogram) :
    facet.countOpens memory = .ok () ∧
      histogram = facet.reference (facet.heard (facet.countingCursor memory) hits)
        (facet.fit (facet.heard memory.openings hits) hits) hits := by
  rw [count_result faithful] at counted
  obtain ⟨_, opened, answered⟩ := exists_of_map_ok counted
  exact ⟨opened, answered.symm⟩

/-- A count that succeeds reports how many hits it visited and how many are in some bucket. -/
theorem count_finishes (faithful : facet.Faithful memory) (present : facet.source ≠ .absent)
    (opened : facet.countOpens memory = .ok ()) :
    (facet.count memory hits).trace.getLast? =
      some (.event (.finished .counting facet.field hits.length
        ((facet.bucketSets (facet.heard (facet.countingCursor memory) hits)
          (facet.fit (facet.heard memory.openings hits) hits) hits).countP
            fun set => set.Nonempty))) := by
  obtain ⟨sweep, counts, run⟩ := count_runs faithful hits present
  obtain ⟨error, closed, _⟩ | ⟨_, tallies⟩ := counts
  · rw [opened] at closed
    cases closed
  · rw [run]
    simp only [Sweep.toPass, tallies.visited, tallies.matched, List.getLast?_cons,
      List.getLast?_append, List.getLast?_nil, Option.some_or, Option.getD_some, Option.getD_none]

end Facet

end Facets
