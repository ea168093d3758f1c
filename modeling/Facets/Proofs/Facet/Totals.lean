import Facets.Proofs.Facet.Calls

namespace Facets

/-- If no set has two members, there are as many members as sets that are not empty. -/
theorem sum_card_of_le_one {sets : List (Finset Ordinal)} (small : ∀ set ∈ sets, set.card ≤ 1) :
    (sets.map Finset.card).sum = sets.countP fun set => set.Nonempty := by
  induction sets with
  | nil => rfl
  | cons set rest ih =>
    have tail := ih fun other member => small other (List.mem_cons_of_mem _ member)
    have first := small set List.mem_cons_self
    rw [List.map_cons, List.sum_cons, List.countP_cons, tail, Nat.add_comm]
    by_cases filled : set.Nonempty
    · have positive := Finset.card_pos.mpr filled
      simp only [filled, decide_true, if_true]
      omega
    · have empty : set.card = 0 := by
        rw [Finset.not_nonempty_iff_eq_empty.mp filled, Finset.card_empty]
      simp only [filled, decide_false, Bool.false_eq_true, if_false, empty]

/-- A cursor of a column with at most one value a row delivers at most one. -/
theorem Reader.length_answer_single {α : Type}
    (cursor : Opener (Cursor (Except SourceError (Option α)))) (n : Nat) (history : List RowId)
    (row : RowId) : ((Reader.single cursor).answer n history row).values.length ≤ 1 := by
  unfold answer openCursor
  cases opened : cursor n with
  | error error =>
    simp only [opened, Except.map]
    exact Nat.zero_le 1
  | ok read =>
    simp only [opened, Except.map]
    cases read history row with
    | error complaint => exact Nat.zero_le 1
    | ok value? => cases value? <;> simp [Delivery.ofSingle]

theorem NumberKind.length_numbers_le (kind : NumberKind) (delivery : Delivery Int64) :
    (kind.numbers delivery).length ≤ delivery.values.length := by
  unfold numbers
  split
  · rw [List.length_map]
  · exact Nat.zero_le _

theorem card_ordinalsWithin_le (size : Nat) (delivery : Delivery Ordinal) :
    (ordinalsWithin size delivery).card ≤ delivery.values.length := by
  unfold ordinalsWithin
  split
  · exact (List.toFinset_card_le _).trans (List.length_filter_le _ _)
  · exact Nat.zero_le _

namespace Facet

variable {facet : Facet} {hits : Hits}

theorem length_numbersOf_heard_le_one
    {cursor : Opener (Cursor (Except SourceError (Option Int64)))}
    (numeric : facet.source = .numeric (.single cursor)) (n position : Nat) (item : Item) :
    (facet.numbersOf (facet.heard n hits position) item).length ≤ 1 := by
  unfold numbersOf
  cases facet.rowOf item with
  | none => exact Nat.zero_le 1
  | some row =>
    refine (NumberKind.length_numbers_le _ _).trans ?_
    simp only [heard, numeric]
    exact Reader.length_answer_single cursor n _ row

/-- On a column with at most one value a row, no hit is in two buckets. -/
theorem card_bucketsOf_le_one
    (single : facet.shape? = some .numericSingle ∨ facet.shape? = some .enumSingle)
    (still : facet.isEvent = false) (n position : Nat) (scale : LinearScale)
    (values : List Float) (item : Item) :
    (facet.bucketsOf (facet.heard n hits position) scale values item).card ≤ 1 := by
  unfold bucketsOf
  cases source : facet.source with
  | absent => exact Nat.zero_le 1
  | numeric reader =>
    cases reader with
    | single cursor =>
      have short : (facet.numbersOf (facet.heard n hits position) item).length ≤ 1 :=
        length_numbersOf_heard_le_one source n position item
      refine (List.toFinset_card_le _).trans ?_
      rwa [List.length_map]
    | set cursor =>
      simp only [shape?, column?, source, Option.map_some, Column.shape, Option.some.injEq,
        reduceCtorEq, or_self] at single
  | enumerated column style dictionary expander =>
    cases expander with
    | some expander =>
      simp only [isEvent, source] at still
      cases still
    | none =>
      obtain ⟨size, openDictionary, reader⟩ := column
      cases reader with
      | single cursor =>
        dsimp only
        unfold ordinalsOf
        cases facet.rowOf item with
        | none => exact Nat.zero_le 1
        | some row =>
          refine (card_ordinalsWithin_le _ _).trans ?_
          simp only [heard, source]
          exact Reader.length_answer_single cursor n _ row
      | set cursor =>
        simp only [shape?, column?, source, Option.map_some, Column.shape, Option.some.injEq,
          reduceCtorEq, or_self] at single

/-- Cursors are asked for rows of hits only, and for none of a hit whose group is expanded. -/
theorem visits_origin (facet : Facet) (hits : Hits) {visit : Visit}
    (visited : visit ∈ (facet.plan hits).visits) :
    ∃ hit, hits[visit.position]? = some hit ∧ facet.rowOf hit.item = some visit.row ∧
      (facet.isEvent = true → hit.item.group = none) := by
  obtain ⟨hit, here, apart, atRow⟩ := Plan.mem_visits.mp visited
  exact ⟨hit, here, atRow, apart⟩

/-- A count that succeeds answers the histogram of the buckets of its hits, those of each hit by what
the cursor answered for it: ascending, without empty buckets, and each with the number of hits it
holds. A linear facet keeps the scale the buckets were taken from. Where rows have at most one value,
the total is the number of hits in some bucket, which is also what is reported. -/
theorem count_meets_reference {index : Index} {settings : Settings} {field : String} {mode : Mode}
    (opened : index.facet settings field mode = .ok facet) (present : facet.source ≠ .absent)
    (calls : List Call) {histogram : Histogram}
    (counted : (facet.count (facet.after calls) hits).result = .ok histogram) :
    let memory := facet.after calls
    let heard := facet.heard (facet.countingCursor memory) hits
    let scale := facet.fit (facet.heard memory.openings hits) hits
    let sets := facet.bucketSets heard scale hits
    histogram = facet.reference heard scale hits ∧
    (facet.isFitted = true → (facet.count memory hits).memory.scale = some scale) ∧
    (histogram.buckets.map (·.ordinal)).Pairwise (· < ·) ∧
    (∀ bucket ∈ histogram.buckets, 0 < bucket.count) ∧
    (∀ ordinal, histogram.count ordinal = sets.countP fun set => ordinal ∈ set) ∧
    (∀ visit ∈ (facet.plan hits).visits, ∃ hit, hits[visit.position]? = some hit ∧
      facet.rowOf hit.item = some visit.row ∧ (facet.isEvent = true → hit.item.group = none)) ∧
    (facet.count memory hits).trace.getLast? = some (.event (.finished .counting facet.field
      hits.length (sets.countP fun set => set.Nonempty))) ∧
    (facet.shape? = some .numericSingle ∨ facet.shape? = some .enumSingle →
      histogram.total = sets.countP fun set => set.Nonempty) := by
  intro memory heard scale sets
  have faithful := facet.faithful_after calls
  obtain ⟨opens, rfl⟩ := eq_reference_of_counted faithful counted
  have described : ∀ ordinal, (0 < sets.countP fun set => ordinal ∈ set) →
      (facet.describes scale (facet.values heard hits) ordinal).isSome :=
    fun ordinal => described_of_filled ordinal
  refine ⟨rfl, ?_, Bucket.listOf_pairwise, ?_, Bucket.count_of_listOf described rfl,
    fun visit => facet.visits_origin hits, count_finishes faithful present opens, ?_⟩
  · intro fitted
    rw [count_scale, fit?, fitted, (opens_of_countOpens opens).1, Option.some_or]
  · intro bucket member
    exact (Bucket.mem_listOf.mp member).1
  · intro single
    have still : facet.isEvent = false := by
      rw [← Bool.not_eq_true]
      intro expanding
      rw [Index.shape_of_isEvent opened expanding] at single
      simp at single
    rw [Bucket.total_of_listOf described rfl]
    refine sum_card_of_le_one fun set member => ?_
    obtain ⟨place, _, rfl⟩ := List.mem_map.mp member
    exact card_bucketsOf_le_one single still _ _ _ _ _

theorem count_meets_reference_market : ∃ facet histogram,
    TableIndex.market.toIndex.facet .default "colour" .exact = .ok facet ∧
    (facet.count (facet.after []) TableIndex.marketHits).result = .ok histogram ∧
    (histogram.buckets.map (·.ordinal)).Pairwise (· < ·) ∧
    histogram.buckets.map (fun bucket => (bucket.ordinal, bucket.count)) =
      [(0, 1), (1, 3), (2, 1)] := by
  refine ⟨_, _, rfl, rfl, ?_, by decide⟩
  have opened : TableIndex.market.toIndex.facet .default "colour" .exact = .ok _ := rfl
  exact (count_meets_reference opened (by intro absent; cases absent) [] rfl).2.2.1

end Facet

end Facets
