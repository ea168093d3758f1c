import Facets.Activity.Trace
import Facets.Ascending
import Facets.Index.Dictionary
import Facets.Text.Split

/-!
Groups of events. A group's composite text names tags, which are looked up in the field's dictionary
of terms. What a composite text expands to is remembered, so that its tags are looked up once; an
expansion that failed is not.
-/

namespace Facets

structure Expander where
  field : String
  groups : Dictionary
  terms : Dictionary
  separator : String

/-- The composite texts expanded so far, with the ordinals of their tags. -/
abbrev Expansions := List (String × List Ordinal)

/-- What an expansion answers, what is remembered after it, and its trace. -/
structure Expanded where
  result : Except SourceError (List Ordinal)
  expansions : Expansions
  trace : Trace

namespace Expander

/-- Looks up tags one after another until a lookup fails. Tags that the dictionary lacks are
reported and left out. -/
def findTags (expander : Expander) : List String → Except SourceError (List Ordinal) × Trace
  | [] => (.ok [], [])
  | tag :: rest =>
    match expander.terms.find tag with
    | .error error => (.error error, [.sought tag])
    | .ok (some ordinal) =>
      let (result, trace) := expander.findTags rest
      (result.map (ordinal :: ·), .sought tag :: trace)
    | .ok none =>
      let (result, trace) := expander.findTags rest
      (result, .sought tag :: .event (.skipped expander.field .unknownTag) :: trace)

/-- The ordinals of the tags of a composite text, ascending and without repetition. -/
def expandText (expander : Expander) (composite : String) :
    Except SourceError (List Ordinal) × Trace :=
  let (result, trace) := expander.findTags (Text.tags expander.separator composite)
  (result.map Ascending.ofList, trace)

def expand (expander : Expander) (expansions : Expansions) (group : Ordinal) : Expanded :=
  match expander.groups.termAt group with
  | .error error => ⟨.error error, expansions, []⟩
  | .ok composite =>
    match expansions.lookup composite with
    | some ordinals => ⟨.ok ordinals, expansions, [.event (.cacheProbed true)]⟩
    | none =>
      match expander.expandText composite with
      | (.ok ordinals, trace) =>
        ⟨.ok ordinals, (composite, ordinals) :: expansions, .event (.cacheProbed false) :: trace⟩
      | (.error error, trace) => ⟨.error error, expansions, .event (.cacheProbed false) :: trace⟩

def expandEach (expander : Expander) (expansions : Expansions) : List Ordinal → List Expanded
  | [] => []
  | group :: rest =>
    let expanded := expander.expand expansions group
    expanded :: expander.expandEach expanded.expansions rest

end Expander

end Facets
