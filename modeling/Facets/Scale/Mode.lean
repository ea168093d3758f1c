/-!
The three ways of dividing numbers into buckets.
-/

namespace Facets

/-- A bucket's place in its bucket space, counted from zero. Ordinals stand for numbers of 32 bits: no
dictionary and no column is taken to have as many as 2^32 different terms or values, so that none of their
numbers is cut off. -/
abbrev Ordinal := Nat

/-- Ten equal widths, powers of ten, or one bucket for each value. -/
inductive Mode where
  | linear
  | log
  | exact
  deriving DecidableEq, Repr, Inhabited

namespace Mode

def name : Mode → String
  | .linear => "linear"
  | .log => "log"
  | .exact => "exact"

def ofName? : String → Option Mode
  | "linear" => some .linear
  | "log" => some .log
  | "exact" => some .exact
  | _ => none

end Mode

end Facets
