import Facets.Ascending
import Facets.Number.Key
import Facets.Scale.Mode

/-!
The exact scale: one bucket for each distinct value, in the total order of values. A value's bucket
is its rank among the distinct values of the pass.
-/

namespace Facets

/-- The distinct values of a pass in ascending order. -/
structure RankTable where
  keys : List ValueKey
  deriving DecidableEq, Repr

namespace RankTable

def ofValues (xs : List Float) : RankTable := ⟨Ascending.ofList (xs.map ValueKey.ofValue)⟩

def size (table : RankTable) : Nat := table.keys.length

/-- The rank of a value, if it is one of the table's. -/
def rank? (table : RankTable) (x : Float) : Option Ordinal :=
  table.keys.idxOf? (ValueKey.ofValue x)

def valueAt? (table : RankTable) (ordinal : Ordinal) : Option Float :=
  table.keys[ordinal]?.map ValueKey.value

/-- The keys at some ranks, ascending. Ranks beyond the table have none. -/
def resolve (table : RankTable) (ordinals : List Ordinal) : List ValueKey :=
  Ascending.ofList (ordinals.filterMap fun ordinal => table.keys[ordinal]?)

end RankTable

end Facets
