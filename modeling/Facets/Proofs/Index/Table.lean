import Facets.Index.Table
import Facets.Proofs.Index.Opening

namespace Facets

theorem Facet.source_of_numeric {facet : Facet} {reader : Reader Int64}
    (numeric : facet.column? = some (.numeric reader)) : facet.source = .numeric reader := by
  unfold column? at numeric
  split at numeric
  · cases numeric
  · rename_i source
    cases numeric
    exact source
  · cases numeric

theorem Facet.source_of_enumerated {facet : Facet} {column : TermColumn}
    (enumerated : facet.column? = some (.enumerated column)) :
    ∃ style dictionary expander, facet.source = .enumerated column style dictionary expander := by
  unfold column? at enumerated
  split at enumerated
  · cases enumerated
  · cases enumerated
  · rename_i source
    cases enumerated
    exact ⟨_, _, _, source⟩

theorem Facet.source_of_none {facet : Facet} (none : facet.column? = none) :
    facet.source = .absent := by
  unfold column? at none
  split at none
  · assumption
  · cases none
  · cases none

/-- What a column of a table answers for its rows. -/
def TableColumn.answers : TableColumn → RowAnswers
  | .numbers rows => ⟨fun row => .whole (rows[row]?).join.toList, fun _ => .whole []⟩
  | .numberSets rows => ⟨fun row => .whole (rows[row]?.getD []), fun _ => .whole []⟩
  | .terms _ rows => ⟨fun _ => .whole [], fun row => .whole (rows[row]?).join.toList⟩
  | .termSets _ rows => ⟨fun _ => .whole [], fun row => .whole (rows[row]?.getD [])⟩

namespace TableIndex

/-- What a table answers for the rows of a field. -/
def answers (table : TableIndex) (field : String) : RowAnswers :=
  match (table.field? field).bind (·.column) with
  | some column => column.answers
  | none => ⟨fun _ => .whole [], fun _ => .whole []⟩

theorem advance_of_forward {history : List RowId} {row : RowId}
    (forward : ∀ earlier ∈ history, earlier ≤ row) : advance history row = .ok () := by
  unfold advance
  split
  · rename_i furthest found
    have bound := forward furthest (List.max?_mem found)
    exact if_neg (Nat.not_lt.mpr bound)
  · rfl

theorem readSingle_answersBy {α : Type} (rows : List (Option α)) :
    (Reader.single fun _ => .ok (readSingle rows)).AnswersBy fun row =>
      .whole (rows[row]?).join.toList := by
  intro n cursor opened history row forward
  cases opened
  simp only [readSingle, advance_of_forward forward]
  rfl

theorem readSet_answersBy {α : Type} (rows : List (List α)) :
    (Reader.set fun _ => .ok (readSet rows)).AnswersBy fun row => .whole (rows[row]?.getD []) := by
  intro n cursor opened history row forward
  cases opened
  simp only [readSet, advance_of_forward forward]

/-- Cursors of a table refuse to go back, so that facets of a table always hear the same of a row, and
they always open. -/
theorem facet_answersBy {table : TableIndex} {settings : Settings} {field : String} {mode : Mode}
    {facet : Facet} (opened : table.toIndex.facet settings field mode = .ok facet) :
    facet.AnswersBy (table.answers field) ∧ ∀ n, facet.opens n = .ok () := by
  have column := Index.column_of_facet opened
  simp only [toIndex, Except.ok.injEq] at column
  unfold answers
  cases held : (table.field? field).bind (·.column) with
  | none =>
    rw [held] at column
    have absent := Facet.source_of_none column.symm
    simp only [Facet.AnswersBy, Facet.opens, absent, implies_true, and_self]
  | some values =>
    rw [held] at column
    cases values with
    | numbers rows =>
      have numeric := Facet.source_of_numeric column.symm
      simp only [Facet.AnswersBy, Facet.opens, numeric]
      exact ⟨readSingle_answersBy rows, fun _ => rfl⟩
    | numberSets rows =>
      have numeric := Facet.source_of_numeric column.symm
      simp only [Facet.AnswersBy, Facet.opens, numeric]
      exact ⟨readSet_answersBy rows, fun _ => rfl⟩
    | terms dictionary rows =>
      obtain ⟨_, _, _, enumerated⟩ := Facet.source_of_enumerated column.symm
      simp only [Facet.AnswersBy, Facet.opens, enumerated]
      exact ⟨readSingle_answersBy rows, fun _ => rfl⟩
    | termSets dictionary rows =>
      obtain ⟨_, _, _, enumerated⟩ := Facet.source_of_enumerated column.symm
      simp only [Facet.AnswersBy, Facet.opens, enumerated]
      exact ⟨readSet_answersBy rows, fun _ => rfl⟩

/-- Three documents with prices and colours, and two groups of colours. -/
def market : TableIndex where
  documents := 3
  fields :=
    [("price", ⟨⟨true, .integer, false, false, false⟩, some (.numberSets [[1, 90], [], [50]]), none⟩),
      ("colour", ⟨⟨false, .integer, false, false, true⟩,
        some (.termSets ["blue", "green", "red"] [[0, 2], [], [1]]), some ["blue;red", "green"]⟩)]

/-- Hits out of order, some of them with a group, one with a group that is not there, and one without
a row. -/
def marketHits : Hits :=
  [⟨⟨0, 2, none⟩, 3⟩, ⟨⟨0, 0, some 1⟩, 2⟩, ⟨⟨0, 2, none⟩, 7⟩, ⟨⟨0, 8, none⟩, 5⟩, ⟨⟨0, 1, some 6⟩, 1⟩,
    ⟨⟨0, 0, none⟩, 4⟩]

end TableIndex

end Facets
