import Facets.Histogram
import Facets.Index.Basic
import Facets.Reading
import Facets.Scale.Linear
import Facets.Settings

/-!
Facets. A facet is a field of an index, opened for counting the documents of its buckets and for
narrowing result sets to some of them. What a facet remembers from pass to pass is kept apart from
it: the linear scale of the last count, how often cursors were opened, and the groups of events that
have been expanded.
-/

namespace Facets

/-- Where a facet's values come from: nowhere, a column of numbers, or a column of terms with the
style and the dictionary of its labels and, on event fields, the expansion of groups. -/
inductive FacetSource where
  | absent
  | numeric (reader : Reader Int64)
  | enumerated (column : TermColumn) (style : LabelStyle) (dictionary : Dictionary)
      (expander : Option Expander)

structure Facet where
  field : String
  traits : Traits
  mode : Mode
  source : FacetSource
  rowOf : Item → Option RowId
  format : NumberFormat

structure FacetMemory where
  scale : Option LinearScale
  /-- How many times cursors have been opened. -/
  openings : Nat
  expansions : Expansions

def FacetMemory.fresh : FacetMemory := ⟨none, 0, []⟩

/-- The style of a column's labels. Only labels of sets have one, and money comes before category. -/
def Traits.labelStyle (traits : Traits) : Shape → LabelStyle
  | .enumSet => if traits.money then .money else if traits.category then .category else .plain
  | _ => .plain

namespace Facet

def column? (facet : Facet) : Option Column :=
  match facet.source with
  | .absent => none
  | .numeric reader => some (.numeric reader)
  | .enumerated column .. => some (.enumerated column)

def shape? (facet : Facet) : Option Shape := facet.column?.map (·.shape)

def isEvent (facet : Facet) : Bool :=
  match facet.source with
  | .enumerated _ _ _ (some _) => true
  | _ => false

/-- The dictionary of a facet's labels. A facet without labels has an empty one. -/
def dictionary (facet : Facet) : Dictionary :=
  match facet.source with
  | .enumerated _ _ dictionary _ => dictionary
  | _ => .empty

end Facet

namespace Index

/-- The expansion of a field's groups, if the index knows groups of the field. The dictionary of
terms is opened for the second time, after that of the labels. -/
def expander? (index : Index) (settings : Settings) (field : String) (column : TermColumn) :
    Except SourceError (Option Expander) := do
  match ← index.groups field with
  | none => return none
  | some groups => return some ⟨field, groups, ← column.dictionary 1, settings.eventSeparator⟩

def source (index : Index) (settings : Settings) (field : String) :
    Except SourceError FacetSource := do
  match ← index.column field with
  | none => return .absent
  | some (.numeric reader) => return .numeric reader
  | some (.enumerated column) =>
    let traits := index.traits field
    let shape := (Column.enumerated column).shape
    let dictionary ← column.dictionary 0
    let expander ←
      if traits.event ∧ shape = .enumSet then index.expander? settings field column else pure none
    return .enumerated column (traits.labelStyle shape) dictionary expander

/-- Opens a field in a mode. A field without values opens all the same. -/
def facet (index : Index) (settings : Settings) (field : String) (mode : Mode) :
    Except SourceError Facet := do
  let source ← index.source settings field
  let traits := index.traits field
  return {
    field, traits, mode, source
    rowOf := index.rowOf
    format := ⟨traits.kind == .integer, settings.rangeSeparator⟩ }

end Index

end Facets
