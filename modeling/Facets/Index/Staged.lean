import Facets.Index.Basic

/-!
An index whose answers and failures are laid down in advance, for rehearsing what an index may do:
dictionaries and cursors that open only so often, rows that cannot be read, values out of order,
terms that are found in the wrong place.
-/

namespace Facets

/-- How often something opens, and the complaint from then on. -/
structure Gate where
  openings : Option Nat
  reason : String

/-- Passes the first openings and refuses the others. -/
def Gate.pass {α : Type} (gate : Gate) (value : α) : Opener α := fun n =>
  match gate.openings with
  | none => .ok value
  | some limit => if n < limit then .ok value else .error (.unavailable gate.reason)

structure StagedDictionary where
  terms : List String
  /-- The size the dictionary claims, if not the number of its terms. -/
  claimed : Option Nat
  badOrdinals : List Ordinal
  badTerms : List String
  /-- Terms that are found at given ordinals. -/
  aliases : List (String × Ordinal)
  gate : Gate

namespace StagedDictionary

def toDictionary (staged : StagedDictionary) : Dictionary where
  size := staged.claimed.getD staged.terms.length
  termAt ordinal :=
    if staged.badOrdinals.contains ordinal then .error (.read ordinal "bad term block")
    else match staged.terms[ordinal]? with
      | some term => .ok term
      | none => .error (.unknownOrdinal ordinal staged.terms.length)
  find term :=
    if staged.badTerms.contains term then .error (.unavailable ("seek " ++ term))
    else match staged.aliases.lookup term with
      | some ordinal => .ok (some ordinal)
      | none => .ok (staged.terms.idxOf? term)

def opener (staged : StagedDictionary) : Opener Dictionary := staged.gate.pass staged.toDictionary

def empty : StagedDictionary := ⟨[], none, [], [], [], ⟨none, ""⟩⟩

end StagedDictionary

/-- The rows of a column, its values exactly as they are to be delivered. -/
inductive StagedRows where
  | numbers (rows : List (Option Int64))
  | numberSets (rows : List (List Int64))
  | ordinals (rows : List (Option Ordinal))
  | ordinalSets (rows : List (List Ordinal))

structure StagedColumn where
  rows : StagedRows
  /-- Rows that cannot be read, with the complaint. Sets are delivered before the complaint. -/
  badRows : List (RowId × String)
  size : Nat
  dictionary : StagedDictionary
  gate : Gate

namespace StagedColumn

def complaint? (column : StagedColumn) (row : RowId) : Option SourceError :=
  (column.badRows.lookup row).map (.read row)

def readSingle {α : Type} (column : StagedColumn) (rows : List (Option α)) :
    Cursor (Except SourceError (Option α)) :=
  fun _ row => match column.complaint? row with
    | some complaint => .error complaint
    | none => .ok (rows[row]?).join

def readSet {α : Type} (column : StagedColumn) (rows : List (List α)) : Cursor (Delivery α) :=
  fun _ row => ⟨rows[row]?.getD [], column.complaint? row⟩

def toColumn (column : StagedColumn) : Column :=
  match column.rows with
  | .numbers rows => .numeric (.single (column.gate.pass (column.readSingle rows)))
  | .numberSets rows => .numeric (.set (column.gate.pass (column.readSet rows)))
  | .ordinals rows => .enumerated
      ⟨column.size, column.dictionary.opener, .single (column.gate.pass (column.readSingle rows))⟩
  | .ordinalSets rows => .enumerated
      ⟨column.size, column.dictionary.opener, .set (column.gate.pass (column.readSet rows))⟩

end StagedColumn

structure StagedField where
  traits : Traits
  column : Option StagedColumn
  columnError : Option String
  groups : Option StagedDictionary
  groupsError : Option String

structure StagedIndex where
  documents : Nat
  /-- Rows by source and number, if items are not their own rows. -/
  rows : Option (List ((Nat × Nat) × RowId))
  fields : List (String × StagedField)

namespace StagedIndex

def toIndex (staged : StagedIndex) : Index where
  traits field := match staged.fields.lookup field with
    | some entry => entry.traits
    | none => .text
  column field := match staged.fields.lookup field with
    | some { columnError := some reason, .. } => .error (.unavailable reason)
    | some entry => .ok (entry.column.map (·.toColumn))
    | none => .ok none
  groups field := match staged.fields.lookup field with
    | some { groupsError := some reason, .. } => .error (.unavailable reason)
    | some { groups := some groups, .. } => (groups.opener 0).map some
    | _ => .ok none
  rowOf item := match staged.rows with
    | some rows => rows.lookup (item.source, item.id)
    | none => if item.id < staged.documents then some item.id else none

end StagedIndex

end Facets
