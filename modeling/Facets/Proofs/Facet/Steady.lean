import Facets.Proofs.Except
import Facets.Proofs.Facet.Counting
import Facets.Proofs.Facet.Memory

namespace Facets

theorem Reader.AnswersBy.answer_eq {α : Type} {reader : Reader α} {answers : RowId → Delivery α}
    (steady : reader.AnswersBy answers) {n : Nat} {cursor : Cursor (Delivery α)}
    (opened : reader.openCursor n = .ok cursor) {history : List RowId} {row : RowId}
    (forward : ∀ earlier ∈ history, earlier ≤ row) : reader.answer n history row = answers row := by
  simp only [answer, opened]
  exact steady n cursor opened history row forward

namespace Facet

/-- All numbers of the rows of a result set. -/
def rowValues (facet : Facet) (rows : RowAnswers) (hits : Hits) : List Float :=
  hits.flatMap fun hit => facet.numbersOf rows hit.item

/-- The linear scale that spans the rows of a result set. -/
def rowFit (facet : Facet) (rows : RowAnswers) (hits : Hits) : LinearScale :=
  .ofValues facet.traits.kind (facet.rowValues rows hits)

/-- The buckets of an item among a result set. -/
def bucketsAmong (facet : Facet) (rows : RowAnswers) (scale : LinearScale) (hits : Hits) :
    Item → Finset Ordinal :=
  facet.bucketsOf rows scale (facet.rowValues rows hits)

/-- The histogram of a result set whose rows always answer the same. -/
def rowHistogram (facet : Facet) (rows : RowAnswers) (hits : Hits) : Histogram :=
  facet.histogram (Bucket.listOf
    (hits.map fun hit => facet.bucketsAmong rows (facet.rowFit rows hits) hits hit.item)
    (facet.describes (facet.rowFit rows hits) (facet.rowValues rows hits)))

variable {facet : Facet} {rows : RowAnswers} {hits : Hits} {n : Nat}

theorem values_rows (facet : Facet) (rows : RowAnswers) (hits : Hits) :
    facet.values (fun _ => rows) hits = facet.rowValues rows hits :=
  hits.flatMap_zipIdx fun hit => facet.numbersOf rows hit.item

theorem bucketSets_rows (facet : Facet) (rows : RowAnswers) (scale : LinearScale) (hits : Hits) :
    facet.bucketSets (fun _ => rows) scale hits =
      hits.map fun hit => facet.bucketsAmong rows scale hits hit.item := by
  rw [bucketSets, values_rows]
  exact hits.map_zipIdx fun hit => facet.bucketsAmong rows scale hits hit.item

theorem words_heard {reader : Reader Int64} (numeric : facet.source = .numeric reader)
    (steady : facet.AnswersBy rows) (opened : facet.opens n = .ok ()) (position : Nat)
    (row : RowId) : (facet.heard n hits position).words row = rows.words row := by
  simp only [AnswersBy, opens, numeric] at steady opened
  simp only [heard, numeric]
  obtain ⟨cursor, atOpening, _⟩ := exists_of_map_ok opened
  exact steady.answer_eq atOpening fun _ member => Plan.row_le_of_mem_before member

theorem ordinals_heard {column : TermColumn} {style : LabelStyle} {dictionary : Dictionary}
    {expander : Option Expander}
    (enumerated : facet.source = .enumerated column style dictionary expander)
    (steady : facet.AnswersBy rows) (opened : facet.opens n = .ok ()) (position : Nat)
    (row : RowId) : (facet.heard n hits position).ordinals row = rows.ordinals row := by
  simp only [AnswersBy, opens, enumerated] at steady opened
  simp only [heard, enumerated]
  obtain ⟨cursor, atOpening, _⟩ := exists_of_map_ok opened
  exact steady.answer_eq atOpening fun _ member => Plan.row_le_of_mem_before member

theorem numbersOf_congr {others : RowAnswers} (same : ∀ row, others.words row = rows.words row)
    (item : Item) : facet.numbersOf others item = facet.numbersOf rows item := by
  unfold numbersOf
  cases facet.rowOf item with
  | none => rfl
  | some row =>
    dsimp only
    rw [same]

theorem values_heard {reader : Reader Int64} (numeric : facet.source = .numeric reader)
    (steady : facet.AnswersBy rows) (opened : facet.opens n = .ok ()) :
    facet.values (facet.heard n hits) hits = facet.rowValues rows hits := by
  have ofRows : ∀ position item,
      facet.numbersOf (facet.heard n hits position) item = facet.numbersOf rows item :=
    fun position item => numbersOf_congr (words_heard numeric steady opened position) item
  rw [← values_rows]
  simp only [values, ofRows]

theorem fit_heard (fitted : facet.isFitted = true) (steady : facet.AnswersBy rows)
    (opened : facet.opens n = .ok ()) :
    facet.fit (facet.heard n hits) hits = facet.rowFit rows hits := by
  obtain ⟨reader, numeric, _⟩ := exists_reader_of_isFitted fitted
  rw [fit, rowFit, values_heard numeric steady opened]

theorem bucketsOf_heard (steady : facet.AnswersBy rows) (opened : facet.opens n = .ok ())
    (scale : LinearScale) (values : List Float) (position : Nat) (item : Item) :
    facet.bucketsOf (facet.heard n hits position) scale values item =
      facet.bucketsOf rows scale values item := by
  unfold bucketsOf
  cases source : facet.source with
  | absent => rfl
  | numeric reader =>
    dsimp only
    rw [numbersOf_congr (words_heard source steady opened position)]
  | enumerated column style dictionary expander =>
    simp only [ordinalsOf, ordinals_heard source steady opened]

theorem bucketSets_heard {m : Nat} (steady : facet.AnswersBy rows)
    (first : facet.opens m = .ok ()) (opened : facet.opens n = .ok ()) :
    facet.bucketSets (facet.heard n hits) (facet.fit (facet.heard m hits) hits) hits =
      hits.map fun hit => facet.bucketsAmong rows (facet.rowFit rows hits) hits hit.item := by
  have sets : facet.bucketsOf rows (facet.fit (facet.heard m hits) hits)
      (facet.values (facet.heard n hits) hits) =
      facet.bucketsAmong rows (facet.rowFit rows hits) hits :=
    bucketsOf_congr (fun fitted => fit_heard fitted steady first)
      (fun _ numeric => values_heard numeric steady opened) rows
  simp only [bucketSets, bucketsOf_heard steady opened, sets]
  exact hits.map_zipIdx fun hit =>
    facet.bucketsAmong rows (facet.rowFit rows hits) hits hit.item

theorem describes_heard {m : Nat} (steady : facet.AnswersBy rows)
    (first : facet.opens m = .ok ()) (opened : facet.opens n = .ok ()) :
    facet.describes (facet.fit (facet.heard m hits) hits) (facet.values (facet.heard n hits) hits) =
      facet.describes (facet.rowFit rows hits) (facet.rowValues rows hits) :=
  describes_congr (fun fitted => fit_heard fitted steady first)
    (fun _ numeric => values_heard numeric steady opened)

theorem reference_heard {m : Nat} (steady : facet.AnswersBy rows) (first : facet.opens m = .ok ())
    (opened : facet.opens n = .ok ()) :
    facet.reference (facet.heard n hits) (facet.fit (facet.heard m hits) hits) hits =
      facet.rowHistogram rows hits := by
  rw [reference, bucketSets_heard steady first opened, describes_heard steady first opened,
    rowHistogram]

theorem opens_of_countOpens {memory : FacetMemory} (opened : facet.countOpens memory = .ok ()) :
    facet.opens memory.openings = .ok () ∧ facet.opens (facet.countingCursor memory) = .ok () := by
  obtain ⟨_, first, second⟩ := exists_of_bind_ok opened
  exact ⟨first, second⟩

/-- Where rows always answer the same, counting answers the histogram of the rows if its cursors
open. -/
theorem count_result_of_steady {memory : FacetMemory} (faithful : facet.Faithful memory)
    (steady : facet.AnswersBy rows) (hits : Hits) : (facet.count memory hits).result =
      (facet.countOpens memory).map fun _ => facet.rowHistogram rows hits := by
  rw [count_result faithful]
  cases opened : facet.countOpens memory with
  | error error => simp only [Except.map]
  | ok _ =>
    obtain ⟨first, second⟩ := opens_of_countOpens opened
    rw [reference_heard steady first second]

theorem fit?_of_steady {memory : FacetMemory} (steady : facet.AnswersBy rows)
    (fitted : facet.isFitted = true) (hits : Hits) : facet.fit? memory hits =
      (facet.opens memory.openings).toOption.map fun _ => facet.rowFit rows hits := by
  unfold fit?
  rw [fitted]
  cases opened : facet.opens memory.openings with
  | error error => rfl
  | ok _ =>
    dsimp only
    rw [fit_heard fitted steady opened]
    rfl

end Facet

end Facets
