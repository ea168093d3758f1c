import Facets.Activity.Recorder
import Mathlib

/-!
Who hears what. Listeners can have the turn inside one another, the same listener more than once, and an
event goes to the innermost of those around it or, outside of all of them, to the counters.
-/

namespace Facets

/-- What happens one after the other: events, resets of the counters, and all that happens while a
listener has the turn. -/
inductive Happening where
  | event (event : Event)
  | reset (now : Nat)
  | under (listener : Listener) (happenings : List Happening)

/-- An event with the listeners around it, innermost first, or a reset of the counters. -/
inductive Entry where
  | event (around : List Listener) (event : Event)
  | reset (now : Nat)

namespace Entry

/-- The listener that hears an event. -/
def heard? : Entry → Option (Listener × Event)
  | event (listener :: _) reported => some (listener, reported)
  | event [] _ | reset _ => none

theorem heard?_event (around : List Listener) (reported : Event) :
    (event around reported).heard? = around.head?.map fun listener => (listener, reported) := by
  cases around <;> rfl

/-- What is reported, with other listeners around it. -/
def within (around : List Listener) : Entry → Entry
  | event _ reported => event around reported
  | reset now => reset now

end Entry

/-- Counts an event that no listener is around. A reset starts over. -/
def Counters.note (counters : Counters) : Entry → Counters
  | .event [] reported => counters.record reported
  | .event (_ :: _) _ => counters
  | .reset now => .zero now

mutual

def Happening.log (around : List Listener) : Happening → List Entry
  | .event reported => [.event around reported]
  | .reset now => [.reset now]
  | .under listener happenings => Happening.logAll (listener :: around) happenings

/-- All events and resets, in order. -/
def Happening.logAll (around : List Listener) : List Happening → List Entry
  | [] => []
  | happening :: rest => happening.log around ++ Happening.logAll around rest

end

mutual

/-- Records what happens. A listener has the turn until all that happens under it is over, then the turn
goes back. -/
def Recorder.follow (recorder : Recorder) : Happening → Recorder
  | .event reported => recorder.record reported
  | .reset now => recorder.reset now
  | .under listener happenings =>
    ((recorder.giveTurn (some listener)).followAll happenings).giveTurn recorder.turn

def Recorder.followAll (recorder : Recorder) : List Happening → Recorder
  | [] => recorder
  | happening :: rest => (recorder.follow happening).followAll rest

end

theorem Happening.logAll_append (around : List Listener) (happenings later : List Happening) :
    Happening.logAll around (happenings ++ later) =
      Happening.logAll around happenings ++ Happening.logAll around later := by
  induction happenings with
  | nil => rfl
  | cons happening rest ih => simp only [List.cons_append, logAll, ih, List.append_assoc]

theorem Happening.logAll_events (around : List Listener) (events : List Event) :
    Happening.logAll around (events.map .event) = events.map (.event around) := by
  induction events with
  | nil => rfl
  | cons event rest ih => simp only [List.map_cons, logAll, log, ih, List.singleton_append]

/-- What has become of a recorder by a log. -/
def Recorder.reading (recorder : Recorder) (log : List Entry) : Recorder where
  counters := log.foldl Counters.note recorder.counters
  heard := recorder.heard ++ log.filterMap Entry.heard?
  turn := recorder.turn

namespace Recorder

@[simp]
theorem reading_nil (recorder : Recorder) : recorder.reading [] = recorder := by
  simp only [reading, List.foldl_nil, List.filterMap_nil, List.append_nil]

theorem reading_append (recorder : Recorder) (log later : List Entry) :
    recorder.reading (log ++ later) = (recorder.reading log).reading later := by
  simp only [reading, List.foldl_append, List.filterMap_append, List.append_assoc]

theorem followAll_append (recorder : Recorder) (happenings later : List Happening) :
    recorder.followAll (happenings ++ later) = (recorder.followAll happenings).followAll later := by
  induction happenings generalizing recorder with
  | nil => rfl
  | cons happening rest ih => exact ih (recorder.follow happening)

theorem followAll_events (recorder : Recorder) (events : List Event) :
    recorder.followAll (events.map .event) = recorder.recordAll events := by
  induction events generalizing recorder with
  | nil => rfl
  | cons event rest ih => exact ih (recorder.record event)

theorem record_eq (recorder : Recorder) {around : List Listener}
    (innermost : around.head? = recorder.turn) (event : Event) :
    recorder.record event = recorder.reading [.event around event] := by
  obtain ⟨counters, heard, turn⟩ := recorder
  cases around with
  | nil =>
    cases innermost
    simp [record, reading, Counters.note, Entry.heard?]
  | cons listener rest =>
    cases innermost
    simp [record, reading, Counters.note, Entry.heard?]

theorem reset_eq (recorder : Recorder) (now : Nat) :
    recorder.reset now = recorder.reading [.reset now] := by
  simp [reset, reading, Counters.note, Entry.heard?]

mutual

/-- The listener that has the turn is the innermost of those around. -/
theorem follow_eq (recorder : Recorder) (around : List Listener)
    (innermost : around.head? = recorder.turn) : ∀ happening : Happening,
      recorder.follow happening = recorder.reading (happening.log around)
  | .event reported => recorder.record_eq innermost reported
  | .reset now => recorder.reset_eq now
  | .under listener happenings => by
    have inside := followAll_eq (recorder.giveTurn (some listener)) (listener :: around) rfl happenings
    rw [follow, inside]
    rfl

theorem followAll_eq (recorder : Recorder) (around : List Listener)
    (innermost : around.head? = recorder.turn) : ∀ happenings : List Happening,
      recorder.followAll happenings = recorder.reading (Happening.logAll around happenings)
  | [] => recorder.reading_nil.symm
  | happening :: rest => by
    have first := follow_eq recorder around innermost happening
    rw [followAll, Happening.logAll, reading_append, ← first]
    refine followAll_eq _ around ?_ rest
    rw [first]
    exact innermost

end

/-- A listener inside another one, and inside itself. -/
example (first second third last : Event) :
    (Recorder.new 0).followAll
        [.under 0 [.event first, .under 1 [.event second, .under 0 [.event third]]], .event last] =
      ⟨(Counters.zero 0).record last, [(0, first), (1, second), (0, third)], none⟩ := rfl

theorem recordAll_eq (recorder : Recorder) (events : List Event) :
    recorder.recordAll events =
      recorder.reading (events.map (.event recorder.turn.toList)) := by
  rw [← followAll_events, followAll_eq _ _ Option.head?_toList, Happening.logAll_events]

end Recorder

end Facets
