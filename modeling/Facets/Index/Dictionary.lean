import Facets.Failure
import Facets.Scale.Mode

/-!
Dictionaries of terms. Terms are numbered from zero by their ordinals; a dictionary finds the term of
an ordinal and the ordinal of a term, and either search may fail. Dictionaries are taken to be
deterministic: unlike a cursor, which may answer by what it has been asked before, a dictionary gives the
same answer, or the same failure, whenever it is asked the same.
-/

namespace Facets

structure Dictionary where
  size : Nat
  termAt : Ordinal → Except SourceError String
  find : String → Except SourceError (Option Ordinal)

namespace Dictionary

def ofTerms (terms : List String) : Dictionary where
  size := terms.length
  termAt ordinal := match terms[ordinal]? with
    | some term => .ok term
    | none => .error (.unknownOrdinal ordinal terms.length)
  find term := .ok (terms.idxOf? term)

def empty : Dictionary := ofTerms []

/-- The term of an ordinal, which must lie within the dictionary's size. -/
def label (dictionary : Dictionary) (ordinal : Ordinal) : Except LabelError String :=
  if ordinal < dictionary.size then (dictionary.termAt ordinal).mapError .source
  else .error (.value (.ordinalOutOfRange ordinal dictionary.size))

end Dictionary

end Facets
