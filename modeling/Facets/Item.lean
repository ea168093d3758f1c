import Facets.Json.Basic
import Facets.Scale.Mode

/-!
The items of a result set. An item names a document by its source and its number there; an item of a
timeline also names a group of events by the group's ordinal.
-/

namespace Facets

structure Item where
  source : Nat
  id : Nat
  group : Option Ordinal
  deriving DecidableEq, Repr

namespace Item

/-- The numbers of an item in the order in which items are compared; no group comes before all. -/
def sortKey (item : Item) : List Nat :=
  match item.group with
  | none => [item.source, item.id]
  | some group => [item.source, item.id, group]

instance : LT Item := ⟨fun a b => a.sortKey < b.sortKey⟩

instance : DecidableLT Item := fun a b => inferInstanceAs (Decidable (a.sortKey < b.sortKey))

/-- A group that is left out or null is none. -/
def groupOfJson? : Option Json → Option (Option Ordinal)
  | none => some none
  | some .null => some none
  | some json => json.toWord?.map some

/-- An item from an object, whose other keys are ignored, or from an array of its three parts. -/
def ofJson? : Json → Option Item
  | .array [source, id, group] => do
    return ⟨← source.toWord?, ← id.toWord?, ← groupOfJson? (some group)⟩
  | json@(.object _) => do
    return ⟨← (← json.field? "source").toWord?, ← (← json.field? "id").toWord?,
      ← groupOfJson? (json.field? "event_group")⟩
  | _ => none

def sort (items : List Item) : List Item :=
  items.mergeSort fun a b => !decide (b < a)

end Item

end Facets
