/-!
What a pass over a result set reports while it runs.
-/

namespace Facets

/-- The two kinds of passes: counting the documents of each bucket, and narrowing a result set to
chosen buckets. -/
inductive PassKind where
  | counting
  | narrowing
  deriving DecidableEq, Repr

def PassKind.name : PassKind → String
  | .counting => "aggregate"
  | .narrowing => "select"

/-- Why a value was left out of a pass. -/
inductive SkipReason where
  /-- A stored word that no value of the field's kind has. -/
  | malformed
  /-- An ordinal outside the field's dictionary. -/
  | ordinalOutOfRange
  /-- A row or a group of events that could not be read. -/
  | unreadable
  /-- An item without a row. -/
  | unknownItem
  /-- A tag that the dictionary lacks. -/
  | unknownTag
  deriving DecidableEq, Repr

def SkipReason.name : SkipReason → String
  | .malformed => "malformed_encoding"
  | .ordinalOutOfRange => "ordinal_out_of_range"
  | .unreadable => "source_read"
  | .unknownItem => "unknown_item"
  | .unknownTag => "unresolved_event"

inductive Event where
  | started (kind : PassKind) (field : String)
  | finished (kind : PassKind) (field : String) (visited matched : Nat)
  | skipped (field : String) (reason : SkipReason)
  /-- A group of events was looked for among those already expanded. -/
  | cacheProbed (hit : Bool)
  | labelResolved
  deriving DecidableEq, Repr

end Facets
