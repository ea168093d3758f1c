import Facets.Proofs.Facet.Steady

namespace Facets

/-- The hits of a result set in some of the given buckets. -/
def Hits.within (hits : Hits) (bucketsOf : Item → Finset Ordinal) (ordinals : List Ordinal) : Hits :=
  hits.filter fun hit => ∃ ordinal ∈ ordinals, ordinal ∈ bucketsOf hit.item

section Within

variable {hits : Hits} {bucketsOf : Item → Finset Ordinal} {ordinals : List Ordinal} {space : Nat}

theorem Hits.within_filter
    (bounded : ∀ hit ∈ hits, ∀ ordinal ∈ bucketsOf hit.item, ordinal < space) :
    hits.within bucketsOf (ordinals.filter (· < space)) = hits.within bucketsOf ordinals := by
  refine List.filter_congr fun hit member => ?_
  simp only [decide_eq_decide, List.mem_filter, decide_eq_true_eq]
  constructor
  · rintro ⟨ordinal, ⟨wanted, _⟩, held⟩
    exact ⟨ordinal, wanted, held⟩
  · rintro ⟨ordinal, wanted, held⟩
    exact ⟨ordinal, ⟨wanted, bounded hit member ordinal held⟩, held⟩

theorem Hits.within_nil : hits.within bucketsOf [] = [] := by
  simp [Hits.within]

theorem Buckets.Spread.picked_within {buckets : Buckets}
    (spread : buckets.Spread hits fun place => bucketsOf place.1.item) :
    hits.atPositions (buckets.positionsIn ordinals) = hits.within bucketsOf ordinals := by
  rw [spread.picked_eq]
  exact hits.filter_zipIdx fun hit => ∃ ordinal ∈ ordinals, ordinal ∈ bucketsOf hit.item

end Within

namespace Facet

variable {facet : Facet} {rows : RowAnswers} {memory : FacetMemory} {hits : Hits}
  {ordinals : List Ordinal}

theorem mem_rowValues {hit : Hit} {x : Float} (member : hit ∈ hits)
    (held : x ∈ facet.numbersOf rows hit.item) : x ∈ facet.rowValues rows hits :=
  List.mem_flatMap.mpr ⟨hit, member, held⟩

/-- The reading that picks hits, made only if some wanted bucket exists. -/
def pickOpens (facet : Facet) (n : Nat) (space : Nat) (ordinals : List Ordinal) :
    Except SourceError Unit :=
  if (ordinals.filter (· < space)).isEmpty then .ok () else facet.opens n

/-- Whether narrowing reads a result set before it knows its buckets. -/
def readsAhead (facet : Facet) (memory : FacetMemory) : Bool :=
  match facet.source, facet.mode with
  | .numeric _, .linear => memory.scale.isNone
  | .numeric _, .exact => true
  | _, _ => false

/-- The openings narrowing needs. -/
def narrowOpens (facet : Facet) (memory : FacetMemory) (space : Nat) (ordinals : List Ordinal) :
    Except SourceError Unit :=
  if facet.readsAhead memory then
    (facet.opens memory.openings).bind fun _ =>
      facet.pickOpens (memory.openings + 1) space ordinals
  else facet.pickOpens memory.openings space ordinals

theorem ofScan_spread_of_steady {reader : Reader Int64} (numeric : facet.source = .numeric reader)
    (steady : facet.AnswersBy rows) {n : Nat} (opened : facet.opens n = .ok ()) {scan : Scan Float}
    (follows : scan.Follows hits (facet.numberReading? (facet.heard n hits))) (scale : LinearScale)
    (bucketOf? : Float → Option Ordinal) (total : ∀ x ∈ facet.rowValues rows hits,
      bucketOf? x = some (facet.bucketOf scale (facet.rowValues rows hits) x)) :
    (Buckets.ofScan bucketOf? scan).Spread hits fun place =>
      facet.bucketsAmong rows scale hits place.1.item := by
  rw [← values_heard numeric steady opened] at total
  refine (ofScan_spread_of_follows numeric follows scale _ bucketOf? total).congr fun place _ => ?_
  rw [bucketsOf_heard steady opened, values_heard numeric steady opened, bucketsAmong]

/-- A reading that is skipped without wanted buckets, and picks hits by the wanted ones, picks hits by
all that are given. -/
theorem result_of_wanted {result : Except SourceError Hits} {n : Nat} {scale : LinearScale}
    {wanted : List Ordinal}
    (filtered : wanted = ordinals.filter (· < facet.bucketSpace (facet.rowValues rows hits)))
    (skipped : wanted.isEmpty = true → result = .ok [])
    (read : wanted.isEmpty = false → result = (facet.opens n).map fun _ =>
      hits.within (facet.bucketsAmong rows scale hits) wanted) :
    result = (facet.pickOpens n (facet.bucketSpace (facet.rowValues rows hits)) ordinals).map
      fun _ => hits.within (facet.bucketsAmong rows scale hits) ordinals := by
  have same : hits.within (facet.bucketsAmong rows scale hits) wanted =
      hits.within (facet.bucketsAmong rows scale hits) ordinals := by
    rw [filtered]
    exact Hits.within_filter fun hit member ordinal held =>
      lt_bucketSpace (fun x value => mem_rowValues member value) held
  unfold pickOpens
  rw [← filtered, ← same]
  cases empty : wanted.isEmpty with
  | true =>
    rw [skipped empty, List.isEmpty_iff.mp empty, Hits.within_nil]
    rfl
  | false =>
    rw [read empty]
    rfl

theorem narrowOnScale_result {reader : Reader Int64} (numeric : facet.source = .numeric reader)
    (steady : facet.AnswersBy rows) {scale : NumberScale} {linear : LinearScale}
    (rule : ∀ values, facet.bucketOf linear values = scale.bucketOf)
    (sized : facet.bucketSpace (facet.rowValues rows hits) = scale.size) (trace : Trace) :
    (facet.narrowOnScale reader scale memory hits ordinals (facet.plan hits) trace).result =
      (facet.pickOpens memory.openings (facet.bucketSpace (facet.rowValues rows hits))
        ordinals).map fun _ => hits.within (facet.bucketsAmong rows linear hits) ordinals := by
  unfold narrowOnScale
  rw [← sized]
  refine result_of_wanted rfl (fun empty => ?_) (fun filled => ?_)
  · simp only [empty, if_true, pickNone]
  · simp only [filled, Bool.false_eq_true, if_false]
    obtain ⟨error, closed, read⟩ | ⟨scan, opened, read, follows⟩ :=
      scanNumbers_cases numeric memory.openings hits
    · simp only [read, closed]
      rfl
    · have spread := ofScan_spread_of_steady numeric steady opened follows linear
        (fun x => some (scale.bucketOf x)) fun x _ => by rw [rule]
      simp only [read, opened, pick, spread.picked_within]
      rfl

theorem narrowLinear_result {reader : Reader Int64} (numeric : facet.source = .numeric reader)
    (steady : facet.AnswersBy rows) (linear : facet.mode = .linear) :
    (facet.narrowLinear reader memory hits ordinals (facet.plan hits)).result =
      (facet.narrowOpens memory (facet.bucketSpace (facet.rowValues rows hits)) ordinals).map
        fun _ => hits.within
          (facet.bucketsAmong rows (memory.scale.getD (facet.rowFit rows hits)) hits) ordinals := by
  have rule : ∀ scale values, facet.bucketOf scale values = (NumberScale.linear scale).bucketOf := by
    intro scale values
    simp only [bucketOf, linear]
    rfl
  have sized : ∀ scale, facet.bucketSpace (facet.rowValues rows hits) =
      (NumberScale.linear scale).size := by
    intro scale
    simp only [bucketSpace, numeric, linear]
    rfl
  unfold narrowLinear narrowOpens
  simp only [readsAhead, numeric, linear]
  cases memory.scale with
  | some scale =>
    exact narrowOnScale_result numeric steady (rule scale) (sized scale) []
  | none =>
    simp only [Option.isNone_none, if_true, Option.getD_none]
    obtain ⟨error, closed, read⟩ | ⟨scan, opened, read, follows⟩ :=
      scanNumbers_cases numeric memory.openings hits
    · simp only [read, closed]
      rfl
    · have fit : LinearScale.ofValues facet.traits.kind scan.values = facet.rowFit rows hits := by
        rw [LinearScale.ofValues_perm _ (values_perm_of_follows follows), rowFit,
          values_heard numeric steady opened]
      simp only [read, opened, fit, Except.bind]
      exact narrowOnScale_result numeric steady (rule _) (sized _) _

theorem narrowExact_result {reader : Reader Int64} (numeric : facet.source = .numeric reader)
    (steady : facet.AnswersBy rows) (exact : facet.mode = .exact) (linear : LinearScale) :
    (facet.narrowExact reader memory hits ordinals (facet.plan hits)).result =
      ((facet.opens memory.openings).bind fun _ => facet.pickOpens (memory.openings + 1)
        (facet.bucketSpace (facet.rowValues rows hits)) ordinals).map fun _ =>
          hits.within (facet.bucketsAmong rows linear hits) ordinals := by
  have sized : facet.bucketSpace (facet.rowValues rows hits) =
      (RankTable.ofValues (facet.rowValues rows hits)).size := by
    simp only [bucketSpace, numeric, exact]
  unfold narrowExact
  obtain ⟨error, closed, read⟩ | ⟨first, opened, read, follows⟩ :=
    scanNumbers_cases numeric memory.openings hits
  · simp only [read, closed]
    rfl
  · have table := RankTable.ofValues_perm (values_perm_of_follows follows)
    rw [values_heard numeric steady opened] at table
    simp only [read, opened, table, Except.bind]
    refine result_of_wanted (by rw [sized]) (fun empty => ?_) (fun filled => ?_)
    · simp only [empty, if_true, pickNone]
    · simp only [filled, Bool.false_eq_true, if_false]
      obtain ⟨error, closed, again⟩ | ⟨second, reopened, again, follows'⟩ :=
        scanNumbers_cases numeric memory.opened.openings hits
      · have closed' : facet.opens (memory.openings + 1) = .error error := closed
        simp only [again, closed']
        rfl
      · have spread := ofScan_spread_of_steady numeric steady reopened follows' linear
          (RankTable.ofValues (facet.rowValues rows hits)).rank? fun x member => by
            simpa only [bucketOf, exact] using RankTable.rank?_ofValues member
        have reopened' : facet.opens (memory.openings + 1) = .ok () := reopened
        simp only [again, reopened', pick, spread.picked_within]
        rfl

theorem narrowTerms_result {column : TermColumn} {style : LabelStyle} {dictionary : Dictionary}
    {expander : Option Expander}
    (enumerated : facet.source = .enumerated column style dictionary expander)
    (steady : facet.AnswersBy rows) (faithful : facet.Faithful memory) (linear : LinearScale) :
    (facet.narrowTerms column expander memory hits ordinals (facet.plan hits)).result =
      (facet.pickOpens memory.openings (facet.bucketSpace (facet.rowValues rows hits))
        ordinals).map fun _ => hits.within (facet.bucketsAmong rows linear hits) ordinals := by
  have sized : facet.bucketSpace (facet.rowValues rows hits) = column.size := by
    simp only [bucketSpace, enumerated]
  unfold narrowTerms
  refine result_of_wanted (by rw [sized]) (fun empty => ?_) (fun filled => ?_)
  · simp only [empty, if_true, pickNone]
  · simp only [filled, Bool.false_eq_true, if_false]
    obtain ⟨error, closed, read⟩ | ⟨groups, opened, read, follows, _⟩ :=
      scanOrdinals_cases enumerated faithful hits
    · simp only [read, closed]
      rfl
    · have spread := (ofOrdinals_spread_of_follows enumerated follows linear
        (facet.rowValues rows hits)).congr fun place _ =>
          bucketsOf_heard steady opened _ _ _ _
      simp only [read, opened, pick]
      rw [spread.picked_within]
      rfl

/-- Where rows always answer the same, narrowing answers the hits in some of the given buckets, on the
scale it remembers or else on the one the result set spans, if the cursors it needs open. -/
theorem narrow_result (faithful : facet.Faithful memory) (steady : facet.AnswersBy rows)
    (hits : Hits) (ordinals : List Ordinal) : (facet.narrow memory hits ordinals).result =
      (facet.narrowOpens memory (facet.bucketSpace (facet.rowValues rows hits)) ordinals).map
        fun _ => hits.within
          (facet.bucketsAmong rows (memory.scale.getD (facet.rowFit rows hits)) hits) ordinals := by
  cases source : facet.source with
  | absent =>
    have none : ∀ ordinals : List Ordinal, ordinals.filter (· < 0) = [] := by simp
    simp only [narrow, narrowOpens, readsAhead, pickOpens, bucketSpace, bucketsAmong, source, none]
    simp [Hits.within, bucketsOf, source, Except.map]
  | numeric reader =>
    cases mode : facet.mode with
    | linear =>
      simp only [narrow, source, mode]
      exact narrowLinear_result source steady mode
    | log =>
      simp only [narrow, narrowOpens, readsAhead, source, mode]
      exact narrowOnScale_result source steady (fun values => by simp only [bucketOf, mode]; rfl)
        (by simp only [bucketSpace, source, mode]; rfl) []
    | exact =>
      simp only [narrow, narrowOpens, readsAhead, source, mode]
      exact narrowExact_result source steady mode _
  | enumerated column style dictionary expander =>
    simp only [narrow, narrowOpens, readsAhead, source]
    exact narrowTerms_result source steady faithful _

end Facet

end Facets
