import Facets.Failure
import Facets.Item

/-!
Result sets: items with their scores, in the order of the search that found them. Scores are
single-precision floats.
-/

namespace Facets

/-- An item with its score, a 32-bit pattern. -/
structure Hit where
  item : Item
  score : UInt32
  deriving DecidableEq, Repr

abbrev Hits := List Hit

namespace Hits

/-- The score of items that come without one. -/
def fullScore : UInt32 := 0x3f800000

def ofItems (items : List Item) : Hits := items.map fun item => ⟨item, fullScore⟩

/-- Items paired with their scores, of which there must be as many. -/
def ofParallel (items : List Item) (scores : List UInt32) : Except Failure Hits :=
  if items.length = scores.length then .ok (items.zipWith Hit.mk scores)
  else .error (.unequalLengths items.length scores.length)

def push (hits : Hits) (item : Item) (score : UInt32) : Hits := hits ++ [⟨item, score⟩]

def atPositions (hits : Hits) (positions : List Nat) : Hits :=
  positions.filterMap fun position => hits[position]?

end Hits

end Facets
