/-!
Finite sets as strictly ascending lists. `insert` puts an element in its place unless it is there
already, and `ofList` gathers the elements of any list; lists that are already ascending cost one
comparison an element.
-/

namespace Facets.Ascending

variable {α : Type} [LT α] [DecidableLT α]

/-- Puts an element before the first larger one, unless it is present. -/
def insert (a : α) : List α → List α
  | [] => [a]
  | b :: rest => if a < b then a :: b :: rest else if b < a then b :: insert a rest else b :: rest

/-- The distinct elements of a list in ascending order. -/
def ofList : List α → List α
  | [] => []
  | a :: rest => insert a (ofList rest)

@[simp]
theorem ofList_nil : ofList ([] : List α) = [] := rfl

@[simp]
theorem ofList_cons (a : α) (rest : List α) : ofList (a :: rest) = insert a (ofList rest) := rfl

end Facets.Ascending
