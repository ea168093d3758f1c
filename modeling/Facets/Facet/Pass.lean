import Facets.Facet.Basic

/-!
Passes of a facet over a result set. A pass reports its start, the hits without a row, what it meets
on the way, and its end, also when it fails.
-/

namespace Facets

/-- What a pass answers, what is remembered after it, and its trace. -/
structure Pass (α : Type) where
  result : Except SourceError α
  memory : FacetMemory
  trace : Trace

/-- The inside of a pass: with its trace, the numbers of documents it visited and matched. -/
structure Sweep (α : Type) where
  result : Except SourceError α
  memory : FacetMemory
  visited : Nat
  matched : Nat
  trace : Trace

namespace Sweep

variable {α : Type}

def failed (error : SourceError) (memory : FacetMemory) (visited : Nat) (trace : Trace) : Sweep α :=
  ⟨.error error, memory, visited, 0, trace⟩

def toPass (sweep : Sweep α) (kind : PassKind) (field : String) (plan : Plan) : Pass α where
  result := sweep.result
  memory := sweep.memory
  trace := .event (.started kind field) :: (plan.trace field ++ sweep.trace ++
    [.event (.finished kind field sweep.visited sweep.matched)])

end Sweep

/-- What a facet remembers when one more cursor has been opened. -/
def FacetMemory.opened (memory : FacetMemory) : FacetMemory :=
  { memory with openings := memory.openings + 1 }

namespace Facet

/-- Reads the numbers of a plan's rows with a cursor opened for the `n`-th time. -/
def scanNumbers (facet : Facet) (reader : Reader Int64) (n : Nat) (plan : Plan) :
    Except SourceError (Scan Float) :=
  (reader.openCursor n).map fun cursor =>
    Scan.ofCursor cursor plan.visits (Reading.ofWords facet.traits.kind)

/-- Reads the ordinals of a plan: groups first, then rows. -/
def scanOrdinals (column : TermColumn) (expander : Option Expander) (memory : FacetMemory)
    (field : String) (plan : Plan) : Except SourceError GroupScan :=
  (column.reader.openCursor memory.openings).map fun cursor =>
    let groups := match expander with
      | some expander => expander.scan column.size memory.expansions plan.groups
      | none => ⟨[], memory.expansions, []⟩
    let rows := Scan.ofCursor cursor plan.visits (Reading.ofOrdinals column.size)
    { scan := groups.scan ++ rows
      expansions := groups.expansions
      trace := groups.trace ++ rows.trace field }

def plan (facet : Facet) (hits : Hits) : Plan := .make facet.rowOf facet.isEvent hits

end Facet

end Facets
