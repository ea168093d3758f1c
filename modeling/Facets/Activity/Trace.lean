import Facets.Activity.Event

/-!
What a call leaves behind besides its answer: the events it reported and the terms it looked for in
a dictionary, in order.
-/

namespace Facets

inductive Mark where
  | event (event : Event)
  | sought (term : String)
  deriving DecidableEq, Repr

def Mark.event? : Mark → Option Event
  | .event reported => some reported
  | .sought _ => none

def Mark.term? : Mark → Option String
  | .event _ => none
  | .sought text => some text

abbrev Trace := List Mark

namespace Trace

def events (trace : Trace) : List Event := trace.filterMap Mark.event?

/-- The terms that were looked for. -/
def terms (trace : Trace) : List String := trace.filterMap Mark.term?

/-- The reports on values of a field that were left out. -/
def ofSkips (field : String) (reasons : List SkipReason) : Trace :=
  reasons.map fun reason => .event (.skipped field reason)

@[simp]
theorem events_append (a b : Trace) : events (a ++ b) = events a ++ events b :=
  List.filterMap_append

@[simp]
theorem terms_append (a b : Trace) : terms (a ++ b) = terms a ++ terms b :=
  List.filterMap_append

@[simp]
theorem events_ofSkips (field : String) (reasons : List SkipReason) :
    events (ofSkips field reasons) = reasons.map (Event.skipped field) := by
  simp [events, ofSkips, List.filterMap_map, Function.comp_def, Mark.event?]

@[simp]
theorem terms_ofSkips (field : String) (reasons : List SkipReason) :
    terms (ofSkips field reasons) = [] := by
  simp [terms, ofSkips, Mark.term?]

end Trace

end Facets
