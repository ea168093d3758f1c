import Facets.Activity.Counters

/-!
Where events go. A listener that has the turn hears them; without one they are counted. A listener has
the turn while something is done, and afterwards it goes back to whoever had it before.
-/

namespace Facets

abbrev Listener := Nat

/-- The counters, what each listener has heard, and the listener whose turn it is. -/
structure Recorder where
  counters : Counters
  heard : List (Listener × Event)
  turn : Option Listener

namespace Recorder

def new (since : Nat) : Recorder := ⟨.zero since, [], none⟩

def record (recorder : Recorder) (event : Event) : Recorder :=
  match recorder.turn with
  | none => { recorder with counters := recorder.counters.record event }
  | some listener => { recorder with heard := recorder.heard ++ [(listener, event)] }

def recordAll (recorder : Recorder) (events : List Event) : Recorder :=
  events.foldl record recorder

def giveTurn (recorder : Recorder) (turn : Option Listener) : Recorder := { recorder with turn }

def heardBy (recorder : Recorder) (listener : Listener) : List Event :=
  (recorder.heard.filter (·.1 == listener)).map (·.2)

def reset (recorder : Recorder) (now : Nat) : Recorder :=
  { recorder with counters := .zero now }

end Recorder

end Facets
