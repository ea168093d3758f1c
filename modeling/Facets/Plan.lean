import Facets.Activity.Trace
import Facets.Ascending
import Facets.Hits
import Facets.Index.Column

/-!
The order in which a pass visits a result set. Cursors only move forward, so rows are visited in
ascending order, and each carries the position of its hit. Where groups of events are expanded, hits
with a group are set aside in the order of the result set and their rows are not looked at.
-/

namespace Facets

/-- A row to be read and the position of the hit it belongs to. -/
structure Visit where
  row : RowId
  position : Nat
  deriving DecidableEq, Repr

namespace Visit

/-- By row, and by position on the same row. -/
instance : LT Visit := ⟨fun a b => a.row < b.row ∨ a.row = b.row ∧ a.position < b.position⟩

instance : DecidableLT Visit := fun a b =>
  inferInstanceAs (Decidable (a.row < b.row ∨ a.row = b.row ∧ a.position < b.position))

end Visit

inductive Place where
  | group (group : Ordinal)
  | row (row : RowId)
  | nowhere
  deriving DecidableEq, Repr

/-- Where the values of an item come from: from its group, if groups are expanded and it has one,
else from its row. -/
def Place.ofItem (rowOf : Item → Option RowId) (expanding : Bool) (item : Item) : Place :=
  match expanding, item.group, rowOf item with
  | true, some g, _ => .group g
  | _, _, some r => .row r
  | _, _, none => .nowhere

structure Plan where
  /-- Positions of hits with a group, and their groups. -/
  groups : List (Nat × Ordinal)
  visits : List Visit
  /-- Positions of hits without a row. -/
  unknown : List Nat
  deriving DecidableEq, Repr

namespace Plan

def ofPlaces (places : List (Place × Nat)) : Plan where
  groups := places.filterMap fun
    | (.group g, position) => some (position, g)
    | _ => none
  visits := Ascending.ofList (places.filterMap fun
    | (.row r, position) => some ⟨r, position⟩
    | _ => none)
  unknown := places.filterMap fun
    | (.nowhere, position) => some position
    | _ => none

def make (rowOf : Item → Option RowId) (expanding : Bool) (hits : Hits) : Plan :=
  ofPlaces (hits.zipIdx.map fun (hit, position) =>
    (Place.ofItem rowOf expanding hit.item, position))

/-- The rows of a plan, in the order in which they are read. -/
def rows (plan : Plan) : List RowId := plan.visits.map (·.row)

/-- Every hit without a row is reported. -/
def trace (field : String) (plan : Plan) : Trace :=
  Trace.ofSkips field (plan.unknown.map fun _ => .unknownItem)

end Plan

end Facets
