import Facets.Activity.Counters
import Facets.Proofs.Ascending

/-!
What counters show. A counter registers how much the events add to it, as far as it can hold that, and
the order of the events leaves no trace.
-/

namespace Facets

/-- What is counted for all fields together. -/
inductive Gauge where
  | passes (kind : PassKind)
  | visited
  | matched
  | skipped (reason : SkipReason)
  | probes (hit : Bool)
  | labels
  deriving DecidableEq

/-- What is counted for each field. -/
inductive Measure where
  | passes (kind : PassKind)
  | visited
  | matched
  | skipped
  deriving DecidableEq

namespace Event

/-- The field an event is about. -/
def field? : Event → Option String
  | started _ field | finished _ field _ _ | skipped field _ => some field
  | cacheProbed _ | labelResolved => none

/-- What an event adds to the counters of all fields together. -/
def gains : Event → List (Gauge × Nat)
  | started kind _ => [(.passes kind, 1)]
  | finished _ _ visited matched => [(.visited, visited), (.matched, matched)]
  | skipped _ reason => [(.skipped reason, 1)]
  | cacheProbed hit => [(.probes hit, 1)]
  | labelResolved => [(.labels, 1)]

/-- What an event adds to the counters of its field. -/
def shares : Event → List (Measure × Nat)
  | started kind _ => [(.passes kind, 1)]
  | finished _ _ visited matched => [(.visited, visited), (.matched, matched)]
  | skipped _ _ => [(.skipped, 1)]
  | cacheProbed _ | labelResolved => []

/-- What an event does to the counters of its field. -/
def change : Event → FieldCounters → FieldCounters
  | started kind _, counters => counters.start kind
  | finished _ _ visited matched, counters => counters.finish visited matched
  | skipped _ _, counters => counters.skip
  | cacheProbed _, counters | labelResolved, counters => counters

end Event

namespace Gauge

def read : Gauge → Totals → Nat
  | passes .counting, totals => totals.countings
  | passes .narrowing, totals => totals.narrowings
  | visited, totals => totals.visited
  | matched, totals => totals.matched
  | skipped .malformed, totals => totals.skippedMalformed
  | skipped .unreadable, totals => totals.skippedUnreadable
  | skipped .ordinalOutOfRange, totals => totals.skippedOrdinalOutOfRange
  | skipped .unknownTag, totals => totals.skippedUnknownTag
  | skipped .unknownItem, totals => totals.skippedUnknownItem
  | probes true, totals => totals.cacheHits
  | probes false, totals => totals.cacheMisses
  | labels, totals => totals.labelsResolved

def added (gauge : Gauge) (event : Event) : Nat := (event.gains.lookup gauge).getD 0

/-- What events add up to. -/
def tally (gauge : Gauge) (events : List Event) : Nat := (events.map gauge.added).sum

/-- An event adds to the counters it gains and leaves the others alone. -/
theorem read_record (gauge : Gauge) (counters : Counters) (event : Event) :
    gauge.read (counters.record event).totals =
      ((event.gains.lookup gauge).map (addCount (gauge.read counters.totals))).getD
        (gauge.read counters.totals) := by
  rcases gauge with (_ | _) | _ | _ | (_ | _ | _ | _ | _) | (_ | _) | _ <;>
  cases event with
  | started kind => cases kind <;> rfl
  | finished => rfl
  | skipped _ reason => cases reason <;> rfl
  | cacheProbed hit => cases hit <;> rfl
  | labelResolved => rfl

theorem tally_concat (gauge : Gauge) (events : List Event) (event : Event) :
    gauge.tally (events ++ [event]) = gauge.tally events + gauge.added event := by
  simp [tally]

theorem tally_perm (gauge : Gauge) {events others : List Event} (perm : events.Perm others) :
    gauge.tally events = gauge.tally others :=
  (perm.map _).sum_eq

end Gauge

theorem Totals.eq_of_read {first second : Totals}
    (same : ∀ gauge : Gauge, gauge.read first = gauge.read second) : first = second := by
  obtain ⟨_, _, _, _, _, _, _, _, _, _, _, _⟩ := first
  obtain ⟨_, _, _, _, _, _, _, _, _, _, _, _⟩ := second
  cases same (.passes .counting)
  cases same (.passes .narrowing)
  cases same .visited
  cases same .matched
  cases same (.skipped .malformed)
  cases same (.skipped .unreadable)
  cases same (.skipped .ordinalOutOfRange)
  cases same (.skipped .unknownTag)
  cases same (.skipped .unknownItem)
  cases same (.probes true)
  cases same (.probes false)
  cases same .labels
  rfl

namespace Measure

def read : Measure → FieldCounters → Nat
  | passes .counting, counters => counters.countings
  | passes .narrowing, counters => counters.narrowings
  | visited, counters => counters.visited
  | matched, counters => counters.matched
  | skipped, counters => counters.skipped

def added (measure : Measure) (event : Event) : Nat := (event.shares.lookup measure).getD 0

/-- What the events of a field add up to. -/
def tally (measure : Measure) (field : String) (events : List Event) : Nat :=
  ((events.filter fun event => event.field? = some field).map measure.added).sum

theorem read_change (measure : Measure) (counters : FieldCounters) (event : Event) :
    measure.read (event.change counters) =
      ((event.shares.lookup measure).map (addCount (measure.read counters))).getD
        (measure.read counters) := by
  rcases measure with (_ | _) | _ | _ | _ <;>
  cases event with
  | started kind => cases kind <;> rfl
  | finished | skipped | cacheProbed | labelResolved => rfl

theorem tally_concat_self (measure : Measure) {field : String} (events : List Event) {event : Event}
    (about : event.field? = some field) :
    measure.tally field (events ++ [event]) = measure.tally field events + measure.added event := by
  simp [tally, about]

theorem tally_concat_other (measure : Measure) {field : String} (events : List Event) {event : Event}
    (other : event.field? ≠ some field) :
    measure.tally field (events ++ [event]) = measure.tally field events := by
  simp [tally, other]

theorem tally_perm (measure : Measure) (field : String) {events others : List Event}
    (perm : events.Perm others) : measure.tally field events = measure.tally field others :=
  ((perm.filter _).map _).sum_eq

end Measure

theorem FieldCounters.eq_of_read {first second : FieldCounters}
    (same : ∀ measure : Measure, measure.read first = measure.read second) : first = second := by
  obtain ⟨_, _, _, _, _⟩ := first
  obtain ⟨_, _, _, _, _⟩ := second
  cases same (.passes .counting)
  cases same (.passes .narrowing)
  cases same .visited
  cases same .matched
  cases same .skipped
  rfl

namespace FieldTable

variable {table : FieldTable}

def names (table : FieldTable) : List String := table.map (·.1)

/-- The counters of a field, which are zero before its first event. -/
def countersOf (table : FieldTable) (field : String) : FieldCounters :=
  (table.lookup field).getD .zero

theorem names_update (table : FieldTable) (field : String) (change : FieldCounters → FieldCounters) :
    (table.update field change).names = Ascending.insert field table.names := by
  induction table with
  | nil => rfl
  | cons entry rest ih =>
    simp only [names, update, Ascending.insert, List.map_cons] at ih ⊢
    split
    · rfl
    · split
      · rw [List.map_cons, ih]
      · rfl

theorem countersOf_of_notMem {field : String} (absent : field ∉ table.names) :
    table.countersOf field = .zero := by
  rw [countersOf, List.lookup_eq_none_iff.mpr, Option.getD_none]
  intro entry member
  exact bne_iff_ne.mpr fun same => absent (same ▸ List.mem_map_of_mem member)

theorem countersOf_cons (entry : String × FieldCounters) (table : FieldTable) (field : String) :
    countersOf (entry :: table) field =
      if field = entry.1 then entry.2 else table.countersOf field := by
  obtain ⟨name, counters⟩ := entry
  unfold countersOf
  split
  · rename_i same
    rw [same, List.lookup_cons_self, Option.getD_some]
  · rename_i other
    rw [List.lookup_cons, beq_eq_false_iff_ne.mpr other]

section Ascending

variable (ascending : table.names.Pairwise (· < ·))

include ascending

theorem countersOf_update (field : String) (change : FieldCounters → FieldCounters) (name : String) :
    (table.update field change).countersOf name =
      if name = field then change (table.countersOf field) else table.countersOf name := by
  induction table with
  | nil => exact countersOf_cons _ _ _
  | cons entry rest ih =>
    obtain ⟨first, tail⟩ := List.pairwise_cons.mp ascending
    unfold update
    split
    · -- The field comes before all that are there, so it has no counters yet.
      rename_i below
      have absent : field ∉ names (entry :: rest) := by
        intro member
        rcases List.mem_cons.mp member with rfl | later
        · exact lt_irrefl _ below
        · exact lt_asymm below (first field later)
      rw [countersOf_of_notMem absent, countersOf_cons]
    · split
      · rename_i above
        have apart := above.ne
        rw [countersOf_cons, ih tail, countersOf_cons, countersOf_cons]
        grind
      · rename_i notBelow notAbove
        have same := le_antisymm (not_lt.mp notAbove) (not_lt.mp notBelow)
        rw [countersOf_cons, countersOf_cons, countersOf_cons]
        grind

theorem countersOf_of_mem {entry : String × FieldCounters} (member : entry ∈ table) :
    table.countersOf entry.1 = entry.2 := by
  induction table with
  | nil => cases member
  | cons head rest ih =>
    obtain ⟨first, tail⟩ := List.pairwise_cons.mp ascending
    rw [countersOf_cons]
    rcases List.mem_cons.mp member with rfl | later
    · exact if_pos rfl
    · rw [if_neg (first entry.1 (List.mem_map_of_mem later)).ne', ih tail later]

/-- A table is its fields with their counters. -/
theorem eq_map_names : table = table.names.map fun name => (name, table.countersOf name) := by
  rw [names, List.map_map]
  refine (List.map_id table).symm.trans (List.map_congr_left fun entry member => ?_)
  exact congrArg (Prod.mk entry.1) (countersOf_of_mem ascending member).symm

end Ascending

end FieldTable

/-- A counter registers a number, as far as it can hold it. -/
def Registers (counter number : Nat) : Prop := counter = min number (UInt64.size - 1)

namespace Registers

variable {counter number : Nat}

/-- A counter that is added to, or left alone where nothing is added, registers the sum. -/
theorem add (registers : Registers counter number) (amount? : Option Nat) :
    Registers ((amount?.map (addCount counter)).getD counter) (number + amount?.getD 0) := by
  cases amount? with
  | none => exact registers
  | some amount =>
    simp only [Registers, addCount, Option.map_some, Option.getD_some] at registers ⊢
    omega

theorem eq_of_lt (registers : Registers counter number) (below : counter < UInt64.size - 1) :
    counter = number := by
  unfold Registers at registers
  omega

end Registers

namespace Counters

/-- What the counters show after some events. -/
structure Tally (counters : Counters) (since : Nat) (events : List Event) : Prop where
  since_eq : counters.since = since
  totals : ∀ gauge : Gauge, Registers (gauge.read counters.totals) (gauge.tally events)
  ascending : counters.fields.names.Pairwise (· < ·)
  mem_names : ∀ name, name ∈ counters.fields.names ↔ ∃ event ∈ events, event.field? = some name
  fields : ∀ (measure : Measure) (name : String),
    Registers (measure.read (counters.fields.countersOf name)) (measure.tally name events)

variable {counters : Counters} {since : Nat} {events : List Event} {event : Event}

theorem fields_record (counters : Counters) {field : String} (about : event.field? = some field) :
    (counters.record event).fields = counters.fields.update field event.change := by
  cases event <;> cases about <;> rfl

theorem fields_record_of_none (counters : Counters) (without : event.field? = none) :
    (counters.record event).fields = counters.fields := by
  cases event <;> cases without <;> rfl

theorem tally_zero (since : Nat) : (zero since).Tally since [] where
  since_eq := rfl
  totals gauge := by rcases gauge with (_ | _) | _ | _ | (_ | _ | _ | _ | _) | (_ | _) | _ <;> rfl
  ascending := .nil
  mem_names name := by simp [zero, FieldTable.names]
  fields measure name := by rcases measure with (_ | _) | _ | _ | _ <;> rfl

theorem Tally.record (tally : counters.Tally since events) (event : Event) :
    (counters.record event).Tally since (events ++ [event]) where
  since_eq := by
    rw [← tally.since_eq]
    cases event <;> rfl
  totals gauge := by
    rw [gauge.read_record, gauge.tally_concat]
    exact (tally.totals gauge).add _
  ascending := by
    cases about : event.field? with
    | none =>
      rw [fields_record_of_none counters about]
      exact tally.ascending
    | some field =>
      rw [fields_record counters about, FieldTable.names_update]
      exact Ascending.insert_pairwise tally.ascending
  mem_names name := by
    simp only [List.mem_append, List.mem_singleton, or_and_right, exists_or, exists_eq_left,
      ← tally.mem_names]
    cases about : event.field? with
    | none => simp [fields_record_of_none counters about]
    | some field =>
      simp [fields_record counters about, FieldTable.names_update, eq_comm, or_comm]
  fields measure name := by
    cases about : event.field? with
    | none =>
      rw [fields_record_of_none counters about, measure.tally_concat_other events (by simp [about])]
      exact tally.fields measure name
    | some field =>
      rw [fields_record counters about, FieldTable.countersOf_update tally.ascending]
      split
      · rename_i same
        subst same
        rw [measure.read_change, measure.tally_concat_self events about]
        exact (tally.fields measure name).add _
      · rename_i other
        rw [measure.tally_concat_other events (by simpa [about] using Ne.symm other)]
        exact tally.fields measure name

/-- Counters show what was recorded since they were zero. -/
theorem tally_recordAll (since : Nat) (events : List Event) :
    ((zero since).recordAll events).Tally since events := by
  induction events using List.reverseRecOn with
  | nil => exact tally_zero since
  | append_singleton events event ih =>
    rw [recordAll, List.foldl_append]
    exact ih.record event

/-- What counters show decides them, so the order of the events leaves no trace. -/
theorem Tally.eq_of_perm (tally : counters.Tally since events) {others : Counters}
    {reordered : List Event} (other : others.Tally since reordered) (perm : reordered.Perm events) :
    others = counters := by
  have totals : others.totals = counters.totals := Totals.eq_of_read fun gauge => by
    rw [other.totals gauge, tally.totals gauge, gauge.tally_perm perm]
  have names : others.fields.names = counters.fields.names :=
    other.ascending.eq_of_mem_iff tally.ascending fun name => by
      simp only [other.mem_names, tally.mem_names, perm.mem_iff]
  have fields : others.fields = counters.fields := by
    rw [FieldTable.eq_map_names other.ascending, FieldTable.eq_map_names tally.ascending, names]
    refine List.map_congr_left fun name _ => congrArg (Prod.mk name) ?_
    refine FieldCounters.eq_of_read fun measure => ?_
    rw [other.fields measure name, tally.fields measure name, measure.tally_perm name perm]
  have since_eq := other.since_eq.trans tally.since_eq.symm
  obtain ⟨_, _, _⟩ := others
  cases totals
  cases fields
  cases since_eq
  rfl

end Counters

end Facets
