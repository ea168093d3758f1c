import Facets.Ascending
import Facets.Index.Basic

/-!
An index kept in tables. Documents are numbered from zero and are their own rows; a field has at most
one column, and the dictionary of a column of terms is the ascending list of the terms it was built
from. Cursors only move forward: a row before the furthest one read is refused.
-/

namespace Facets

inductive TableColumn where
  | numbers (rows : List (Option Int64))
  | numberSets (rows : List (List Int64))
  | terms (dictionary : List String) (rows : List (Option Ordinal))
  | termSets (dictionary : List String) (rows : List (List Ordinal))
  deriving DecidableEq, Repr

structure TableField where
  traits : Traits
  column : Option TableColumn
  groups : Option (List String)
  deriving DecidableEq, Repr

def TableField.empty : TableField := ⟨.text, none, none⟩

structure TableIndex where
  documents : Nat
  fields : List (String × TableField)
  deriving DecidableEq, Repr

namespace TableIndex

def new (documents : Nat) : TableIndex := ⟨documents, []⟩

def field? (table : TableIndex) (field : String) : Option TableField := table.fields.lookup field

/-- Changes a field, which starts as an empty one. -/
def alter (table : TableIndex) (field : String) (change : TableField → TableField) : TableIndex :=
  { table with
    fields := (field, change ((table.field? field).getD .empty)) ::
      table.fields.filter fun entry => entry.1 != field }

def withTraits (table : TableIndex) (field : String) (traits : Traits) : TableIndex :=
  table.alter field fun entry => { entry with traits }

def withNumericColumn (table : TableIndex) (field : String) (kind : NumberKind)
    (column : TableColumn) : TableIndex :=
  table.alter field fun entry =>
    { entry with
      traits := { entry.traits with numeric := true, kind }
      column := some column }

def withWords (table : TableIndex) (field : String) (kind : NumberKind)
    (rows : List (Option Int64)) : TableIndex :=
  table.withNumericColumn field kind (.numbers rows)

def withNumbers (table : TableIndex) (field : String) (kind : NumberKind)
    (rows : List (Option Float)) : TableIndex :=
  table.withWords field kind (rows.map fun value? => value?.map kind.encode)

def withWordSets (table : TableIndex) (field : String) (kind : NumberKind)
    (rows : List (List Int64)) : TableIndex :=
  table.withNumericColumn field kind (.numberSets (rows.map Ascending.ofList))

def withNumberSets (table : TableIndex) (field : String) (kind : NumberKind)
    (rows : List (List Float)) : TableIndex :=
  table.withWordSets field kind (rows.map fun row => row.map kind.encode)

def withTerms (table : TableIndex) (field : String) (rows : List (Option String)) : TableIndex :=
  let dictionary := Ascending.ofList (rows.filterMap id)
  table.alter field fun entry =>
    { entry with
      column := some (.terms dictionary (rows.map fun term? => term?.bind dictionary.idxOf?)) }

def withTermSets (table : TableIndex) (field : String) (rows : List (List String)) : TableIndex :=
  let dictionary := Ascending.ofList rows.flatten
  table.alter field fun entry =>
    { entry with
      column := some (.termSets dictionary
        (rows.map fun row => Ascending.ofList (row.filterMap dictionary.idxOf?))) }

/-- The composite texts of a field's groups of events, which make it an event field. -/
def withGroups (table : TableIndex) (field : String) (composites : List String) : TableIndex :=
  table.alter field fun entry =>
    { entry with
      traits := { entry.traits with event := true }
      groups := some (Ascending.ofList composites) }

def groupOrdinal? (table : TableIndex) (field composite : String) : Option Ordinal := do
  let groups ← (← table.field? field).groups
  groups.idxOf? composite

def termOrdinal? (table : TableIndex) (field term : String) : Option Ordinal := do
  match ← (← table.field? field).column with
  | .terms dictionary _ | .termSets dictionary _ => dictionary.idxOf? term
  | .numbers _ | .numberSets _ => none

/-- Refuses to go back behind the furthest row read. -/
def advance (history : List RowId) (row : RowId) : Except SourceError Unit :=
  match history.max? with
  | some furthest =>
    if row < furthest then
      .error (.read row ("cursor already at row " ++ toString furthest))
    else .ok ()
  | none => .ok ()

/-- The value of a row; rows beyond the end have none. -/
def readSingle {α : Type} (rows : List (Option α)) : Cursor (Except SourceError (Option α)) :=
  fun history row => (advance history row).map fun _ => (rows[row]?).join

/-- The values of a row; rows beyond the end have none. -/
def readSet {α : Type} (rows : List (List α)) : Cursor (Delivery α) :=
  fun history row =>
    match advance history row with
    | .ok _ => .whole (rows[row]?.getD [])
    | .error complaint => ⟨[], some complaint⟩

def toColumn : TableColumn → Column
  | .numbers rows => .numeric (.single fun _ => .ok (readSingle rows))
  | .numberSets rows => .numeric (.set fun _ => .ok (readSet rows))
  | .terms dictionary rows => .enumerated
      { size := dictionary.length
        dictionary := fun _ => .ok (.ofTerms dictionary)
        reader := .single fun _ => .ok (readSingle rows) }
  | .termSets dictionary rows => .enumerated
      { size := dictionary.length
        dictionary := fun _ => .ok (.ofTerms dictionary)
        reader := .set fun _ => .ok (readSet rows) }

def toIndex (table : TableIndex) : Index where
  traits field := match table.field? field with
    | some entry => entry.traits
    | none => .text
  column field := .ok (((table.field? field).bind (·.column)).map toColumn)
  groups field := .ok (((table.field? field).bind (·.groups)).map .ofTerms)
  rowOf item := if item.id < table.documents then some item.id else none

end TableIndex

end Facets
