import Facets.Index.Column
import Facets.Item
import Facets.Number.Kind

/-!
An index: the documents a result set refers to, with a column for each field.
-/

namespace Facets

/-- What is known of a field. Categories and money only matter for how labels are shown. -/
structure Traits where
  numeric : Bool
  kind : NumberKind
  category : Bool
  money : Bool
  event : Bool
  deriving DecidableEq, Repr

def Traits.text : Traits := ⟨false, .integer, false, false, false⟩

structure Index where
  traits : String → Traits
  /-- A field's column, or none if the field has no values. -/
  column : String → Except SourceError (Option Column)
  /-- The composite texts of a field's groups of events. -/
  groups : String → Except SourceError (Option Dictionary)
  rowOf : Item → Option RowId

end Facets
