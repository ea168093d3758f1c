import Facets.Activity.Event
import Facets.Number.Exact

/-!
Counters that events are folded into, once for all fields together and once for each field. They
stay at the largest 64-bit number when they reach it.
-/

namespace Facets

/-- Adds to a counter, up to the largest 64-bit number. -/
def addCount (counter amount : Nat) : Nat := min (counter + amount) (UInt64.size - 1)

structure Totals where
  countings : Nat
  narrowings : Nat
  visited : Nat
  matched : Nat
  skippedMalformed : Nat
  skippedUnreadable : Nat
  skippedOrdinalOutOfRange : Nat
  skippedUnknownTag : Nat
  skippedUnknownItem : Nat
  cacheHits : Nat
  cacheMisses : Nat
  labelsResolved : Nat
  deriving DecidableEq, Repr

def Totals.zero : Totals := ⟨0, 0, 0, 0, 0, 0, 0, 0, 0, 0, 0, 0⟩

structure FieldCounters where
  countings : Nat
  narrowings : Nat
  visited : Nat
  matched : Nat
  skipped : Nat
  deriving DecidableEq, Repr

def FieldCounters.zero : FieldCounters := ⟨0, 0, 0, 0, 0⟩

namespace Totals

def start (totals : Totals) : PassKind → Totals
  | .counting => { totals with countings := addCount totals.countings 1 }
  | .narrowing => { totals with narrowings := addCount totals.narrowings 1 }

def finish (totals : Totals) (visited matched : Nat) : Totals :=
  { totals with
    visited := addCount totals.visited visited
    matched := addCount totals.matched matched }

def skip (totals : Totals) : SkipReason → Totals
  | .malformed => { totals with skippedMalformed := addCount totals.skippedMalformed 1 }
  | .unreadable => { totals with skippedUnreadable := addCount totals.skippedUnreadable 1 }
  | .ordinalOutOfRange =>
    { totals with skippedOrdinalOutOfRange := addCount totals.skippedOrdinalOutOfRange 1 }
  | .unknownTag => { totals with skippedUnknownTag := addCount totals.skippedUnknownTag 1 }
  | .unknownItem => { totals with skippedUnknownItem := addCount totals.skippedUnknownItem 1 }

def probe (totals : Totals) : (hit : Bool) → Totals
  | true => { totals with cacheHits := addCount totals.cacheHits 1 }
  | false => { totals with cacheMisses := addCount totals.cacheMisses 1 }

def label (totals : Totals) : Totals :=
  { totals with labelsResolved := addCount totals.labelsResolved 1 }

end Totals

namespace FieldCounters

def start (counters : FieldCounters) : PassKind → FieldCounters
  | .counting => { counters with countings := addCount counters.countings 1 }
  | .narrowing => { counters with narrowings := addCount counters.narrowings 1 }

def finish (counters : FieldCounters) (visited matched : Nat) : FieldCounters :=
  { counters with
    visited := addCount counters.visited visited
    matched := addCount counters.matched matched }

def skip (counters : FieldCounters) : FieldCounters :=
  { counters with skipped := addCount counters.skipped 1 }

end FieldCounters

/-- Counters by field, in ascending order of the fields' names. -/
abbrev FieldTable := List (String × FieldCounters)

/-- Changes the counters of one field, which start at zero. -/
def FieldTable.update (field : String) (change : FieldCounters → FieldCounters) :
    FieldTable → FieldTable
  | [] => [(field, change .zero)]
  | (name, counters) :: rest =>
    if field < name then (field, change .zero) :: (name, counters) :: rest
    else if name < field then (name, counters) :: FieldTable.update field change rest
    else (name, change counters) :: rest

structure Counters where
  totals : Totals
  fields : FieldTable
  since : Nat
  deriving DecidableEq, Repr

namespace Counters

def zero (since : Nat) : Counters := ⟨.zero, [], since⟩

def record (counters : Counters) : Event → Counters
  | .started kind field =>
    { counters with
      totals := counters.totals.start kind
      fields := counters.fields.update field (·.start kind) }
  | .finished _ field visited matched =>
    { counters with
      totals := counters.totals.finish visited matched
      fields := counters.fields.update field (·.finish visited matched) }
  | .skipped field reason =>
    { counters with
      totals := counters.totals.skip reason
      fields := counters.fields.update field (·.skip) }
  | .cacheProbed hit => { counters with totals := counters.totals.probe hit }
  | .labelResolved => { counters with totals := counters.totals.label }

def recordAll (counters : Counters) (events : List Event) : Counters :=
  events.foldl record counters

end Counters

/-- The counters of one field in a report, with the mean number of documents a pass visited. -/
structure FieldSummary where
  field : String
  counters : FieldCounters
  meanVisited : Float

/-- The mean number of documents a pass over a field visited, zero before the first pass. The sum of both
counters is taken to fit into 64 bits, as it does until 2^64 passes have been counted. -/
def FieldCounters.meanVisited (counters : FieldCounters) : Float :=
  let passes := counters.countings + counters.narrowings
  if passes = 0 then 0.0 else Number.ofInt counters.visited / Number.ofInt passes

/-- A report: the counters, unless they start too early, and a summary of each field. -/
structure Report where
  counters : Option Counters
  summaries : List FieldSummary

/-- A report on what has been counted from a time on. Counters that start before it are left out. -/
def Counters.report (counters : Counters) (from? : Option Nat) : Report :=
  if from?.any (counters.since < ·) then ⟨none, []⟩
  else
    { counters := some counters
      summaries := counters.fields.map fun (field, counters) =>
        ⟨field, counters, counters.meanVisited⟩ }

end Facets
