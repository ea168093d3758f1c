import Facets.Expansion
import Facets.Failure
import Facets.Plan

/-!
What a pass takes from each document. A row that cannot be read, or that holds a malformed number,
counts as a document without values; ordinals outside the dictionary are dropped one by one. Each
omission has its reason.
-/

namespace Facets

/-- The bits of the double that a stored word stands for, or the complaint that no value of the kind is
stored so. -/
def NumberKind.decodeBits? (kind : NumberKind) (raw : Int64) : Except ValueError UInt64 :=
  if kind.stores raw then .ok (kind.decodeBits raw) else .error (.malformed raw kind)

def NumberKind.decode? (kind : NumberKind) (raw : Int64) : Except ValueError Float :=
  (kind.decodeBits? raw).map Float.ofBits

/-- The values of one document, and the reasons for what was left out. -/
structure Reading (α : Type) where
  values : List α
  skips : List SkipReason
  deriving DecidableEq, Repr

namespace Reading

/-- A document that is left out altogether. -/
def skip {α : Type} (reason : SkipReason) : Reading α := ⟨[], [reason]⟩

/-- The numbers of a delivered row. -/
def ofWords (kind : NumberKind) (delivery : Delivery Int64) : Reading Float :=
  match delivery.complaint with
  | some _ => skip .unreadable
  | none =>
    if delivery.values.all kind.stores then ⟨delivery.values.map kind.decode, []⟩
    else skip .malformed

/-- The ordinals below `size`, with a reason for each of the others. -/
def inSpace (size : Nat) (ordinals : List Ordinal) : Reading Ordinal :=
  ⟨ordinals.filter (· < size),
    (ordinals.filter (size ≤ ·)).map fun _ => .ordinalOutOfRange⟩

/-- The ordinals of a delivered row, ascending and without repetition. -/
def ofOrdinals (size : Nat) (delivery : Delivery Ordinal) : Reading Ordinal :=
  match delivery.complaint with
  | some _ => skip .unreadable
  | none =>
    let reading := inSpace size delivery.values
    ⟨Ascending.ofList reading.values, reading.skips⟩

end Reading

/-- Readings by the positions of their hits, in the order in which they were taken. -/
abbrev Scan (α : Type) := List (Nat × Reading α)

namespace Scan

variable {α : Type}

/-- Reads the rows of a plan with a fresh cursor. -/
def ofCursor {ρ : Type} (cursor : Cursor ρ) (visits : List Visit) (reading : ρ → Reading α) :
    Scan α :=
  (visits.map (·.position)).zip ((cursor.readAll (visits.map (·.row))).map reading)

def trace (field : String) (scan : Scan α) : Trace :=
  Trace.ofSkips field (scan.flatMap fun (_, reading) => reading.skips)

/-- All values in the order in which they were read. -/
def values (scan : Scan α) : List α := scan.flatMap fun (_, reading) => reading.values

end Scan

/-- The readings of groups of events, with what is remembered after them and their trace. -/
structure GroupScan where
  scan : Scan Ordinal
  expansions : Expansions
  trace : Trace

/-- Expands groups one after another. A group that cannot be expanded leaves its hit out. -/
def Expander.scan (expander : Expander) (size : Nat) (expansions : Expansions) :
    List (Nat × Ordinal) → GroupScan
  | [] => ⟨[], expansions, []⟩
  | (position, group) :: rest =>
    let expanded := expander.expand expansions group
    let reading := match expanded.result with
      | .ok ordinals => Reading.inSpace size ordinals
      | .error _ => .skip .unreadable
    let others := expander.scan size expanded.expansions rest
    { scan := (position, reading) :: others.scan
      expansions := others.expansions
      trace := expanded.trace ++ Trace.ofSkips expander.field reading.skips ++ others.trace }

end Facets
