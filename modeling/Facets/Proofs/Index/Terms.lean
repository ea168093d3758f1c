import Facets.Proofs.Facet.Steady
import Facets.Proofs.Index.Table

/-!
Columns of terms in a table. The terms given for the documents make a dictionary, and the ordinals
kept for a document are those of its terms in it.
-/

namespace Facets

/-- The terms given for documents: at most one each, or a list of terms each. -/
inductive GivenTerms where
  | single (rows : List (Option String))
  | sets (rows : List (List String))

namespace GivenTerms

/-- The terms given for a document; documents beyond the end have none. -/
def ofRow : GivenTerms → RowId → List String
  | single rows, row => (rows[row]?).join.toList
  | sets rows, row => rows[row]?.getD []

/-- The distinct terms of all documents in ascending order. -/
def dictionary : GivenTerms → List String
  | single rows => Ascending.ofList (rows.filterMap id)
  | sets rows => Ascending.ofList rows.flatten

/-- The column that a table builds from given terms. -/
def column (given : GivenTerms) : TableColumn :=
  match given with
  | single rows =>
    .terms given.dictionary (rows.map fun term? => term?.bind given.dictionary.idxOf?)
  | sets rows => .termSets given.dictionary
      (rows.map fun row => Ascending.ofList (row.filterMap given.dictionary.idxOf?))

variable {given : GivenTerms}

theorem dictionary_pairwise (given : GivenTerms) : given.dictionary.Pairwise (· < ·) := by
  cases given <;> exact Ascending.ofList_pairwise _

theorem mem_dictionary_of_mem_ofRow {term : String} {row : RowId} (listed : term ∈ given.ofRow row) :
    term ∈ given.dictionary := by
  cases given with
  | single rows =>
    simp only [ofRow, Option.mem_toList, Option.join_eq_some_iff] at listed
    simp only [dictionary, Ascending.mem_ofList, List.mem_filterMap, id_eq]
    exact ⟨some term, List.mem_of_getElem? listed, rfl⟩
  | sets rows =>
    simp only [dictionary, Ascending.mem_ofList, List.mem_flatten]
    cases found : rows[row]? with
    | none => simp [ofRow, found] at listed
    | some terms =>
      simp only [ofRow, found, Option.getD_some] at listed
      exact ⟨terms, List.mem_of_getElem? found, listed⟩

/-- Looking a term up and reading an ordinal are inverse to each other. -/
theorem idxOf?_eq_some_iff {term : String} {ordinal : Ordinal} :
    given.dictionary.idxOf? term = some ordinal ↔ given.dictionary[ordinal]? = some term := by
  have distinct : given.dictionary.Nodup := given.dictionary_pairwise.imp ne_of_lt
  rw [List.idxOf?_eq_some_iff, List.getElem?_eq_some_iff]
  constructor
  · rintro ⟨within, here, _⟩
    exact ⟨within, here⟩
  · rintro ⟨within, here⟩
    refine ⟨within, here, fun earlier less same => ?_⟩
    have places := (distinct.getElem_inj_iff).mp (same.trans here.symm)
    omega

/-- A document's ordinals stand for its terms. -/
theorem mem_ordinalsWithin {row : RowId} {ordinal : Ordinal} :
    ordinal ∈ ordinalsWithin given.dictionary.length (given.column.answers.ordinals row) ↔
      ∃ term ∈ given.ofRow row, given.dictionary[ordinal]? = some term := by
  have kept : ordinal ∈ (given.column.answers.ordinals row).values ↔
      ∃ term ∈ given.ofRow row, given.dictionary.idxOf? term = some ordinal := by
    cases given with
    | single rows =>
      simp only [column, TableColumn.answers, Delivery.whole, ofRow, List.getElem?_map]
      rcases rows[row]? with _ | _ | term <;> simp
    | sets rows =>
      simp only [column, TableColumn.answers, Delivery.whole, ofRow, List.getElem?_map]
      cases rows[row]? <;> simp
  have whole : (given.column.answers.ordinals row).complaint = none := by
    cases given <;> rfl
  simp only [ordinalsWithin, whole, if_true, List.mem_toFinset, List.mem_filter, kept,
    decide_eq_true_eq, idxOf?_eq_some_iff]
  constructor
  · rintro ⟨listed, _⟩
    exact listed
  · rintro ⟨term, listed, here⟩
    exact ⟨⟨term, listed, here⟩, (List.getElem?_eq_some_iff.mp here).1⟩

end GivenTerms

namespace TableIndex

/-- A table with a column of given terms. -/
def withGiven (table : TableIndex) (field : String) : GivenTerms → TableIndex
  | .single rows => table.withTerms field rows
  | .sets rows => table.withTermSets field rows

/-- The terms that an item's document lists. Documents that the table does not have list none. -/
def listed (table : TableIndex) (given : GivenTerms) (item : Item) : List String :=
  if item.id < table.documents then given.ofRow item.id else []

variable {table : TableIndex} {given : GivenTerms} {settings : Settings} {field : String}
  {mode : Mode} {facet : Facet}

theorem column_withGiven (table : TableIndex) (field : String) (given : GivenTerms) :
    ((table.withGiven field given).field? field).bind (·.column) = some given.column := by
  cases given <;>
    simp [withGiven, withTerms, withTermSets, alter, field?, GivenTerms.column,
      GivenTerms.dictionary]

theorem answers_withGiven (table : TableIndex) (field : String) (given : GivenTerms) :
    (table.withGiven field given).answers field = given.column.answers := by
  rw [answers, column_withGiven]

theorem rowOf_withGiven (opened : (table.withGiven field given).toIndex.facet settings field mode =
    .ok facet) (item : Item) :
    facet.rowOf item = if item.id < table.documents then some item.id else none := by
  rw [Index.rowOf_of_facet opened]
  cases given <;> rfl

/-- A facet of given terms, no event field, has their dictionary for its buckets and its labels. -/
theorem source_withGiven (opened : (table.withGiven field given).toIndex.facet settings field mode =
    .ok facet) (still : facet.isEvent = false) : ∃ column style,
      facet.source = .enumerated column style (.ofTerms given.dictionary) none ∧
        column.size = given.dictionary.length := by
  have known : (table.withGiven field given).toIndex.column field =
      .ok (some (toColumn given.column)) := by
    simp only [toIndex, column_withGiven, Option.map_some]
  obtain ⟨_, found⟩ | ⟨_, _, found⟩ | ⟨column, style, dictionary, expander, source, found, _, book⟩ :=
    Index.source_cases (Index.source_of_facet opened)
  · rw [known] at found
    cases found
  · rw [known] at found
    cases given <;> cases found
  · rw [known] at found
    have expanding : expander = none := by
      cases expander with
      | none => rfl
      | some expander =>
        simp only [Facet.isEvent, source] at still
        cases still
    subst expanding
    refine ⟨column, style, ?_, ?_⟩
    · rw [source]
      cases given <;> cases found <;> cases book <;> rfl
    · cases given <;> cases found <;> rfl

/-- An item is in the buckets of the terms that its document lists. -/
theorem mem_bucketsAmong_withGiven
    (opened : (table.withGiven field given).toIndex.facet settings field mode = .ok facet)
    (still : facet.isEvent = false) {scale : LinearScale} {hits : Hits} {item : Item}
    {ordinal : Ordinal} :
    ordinal ∈ facet.bucketsAmong ((table.withGiven field given).answers field) scale hits item ↔
      ∃ term ∈ table.listed given item, given.dictionary[ordinal]? = some term := by
  obtain ⟨column, style, source, size⟩ := source_withGiven opened still
  simp only [Facet.bucketsAmong, Facet.bucketsOf, source, Facet.ordinalsOf,
    rowOf_withGiven opened, size, answers_withGiven, listed]
  by_cases known : item.id < table.documents
  · simp only [known, if_true, GivenTerms.mem_ordinalsWithin]
  · simp only [known, if_false, Finset.notMem_empty, List.not_mem_nil, false_and, exists_false]

end TableIndex

end Facets
