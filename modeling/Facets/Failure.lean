import Facets.Number.Kind

/-!
What can go wrong, as causes. A `ValueError` is a value or a request that does not fit its field, a
`SourceError` a complaint of the index that holds the values, a `SettingsError` an unusable setting.
Each has its wording and its place in the classification of a `Failure`.
-/

namespace Facets

inductive FailureClass where
  | corruption
  | notFound
  | internal
  | unsupported
  | invariantViolation
  deriving DecidableEq, Repr

def FailureClass.name : FailureClass → String
  | .corruption => "corruption"
  | .notFound => "not_found"
  | .internal => "internal"
  | .unsupported => "unsupported"
  | .invariantViolation => "invariant_violation"

inductive FailureOrigin where
  | codec
  | config
  | lookup
  | result
  | source
  deriving DecidableEq, Repr

def FailureOrigin.name : FailureOrigin → String
  | .codec => "codec"
  | .config => "config"
  | .lookup => "lookup"
  | .result => "result"
  | .source => "source"

/-- A failure as a caller sees it: classified, with its wording. -/
structure Failure where
  kind : FailureClass
  origin : FailureOrigin
  message : String
  deriving DecidableEq, Repr

namespace Failure

/-- Where it comes from and its class, as `origin:class`. -/
def tag (failure : Failure) : String := failure.origin.name ++ ":" ++ failure.kind.name

def full (failure : Failure) : String := failure.tag ++ ": " ++ failure.message

def isNotFound (failure : Failure) : Bool := failure.kind == .notFound

/-- Items and scores of a result set come in different numbers. -/
def unequalLengths (items scores : Nat) : Failure where
  kind := .invariantViolation
  origin := .result
  message := "result set has " ++ toString items ++ " items but " ++ toString scores ++ " scores"

end Failure

/-- A value or a request that does not fit its field. -/
inductive ValueError where
  | malformed (raw : Int64) (kind : NumberKind)
  | noSource (field : String)
  | ordinalOutOfRange (ordinal size : Nat)
  deriving DecidableEq, Repr

namespace ValueError

def message : ValueError → String
  | malformed raw kind =>
    "raw value " ++ toString raw.toInt ++ " is not a valid " ++ kind.name ++ " sortable encoding"
  | noSource field => "field '" ++ field ++ "' has no usable value source"
  | ordinalOutOfRange ordinal size =>
    "ordinal " ++ toString ordinal ++ " is outside a bucket space of " ++ toString size

def failure (error : ValueError) : Failure where
  kind := match error with
    | malformed .. => .corruption
    | noSource .. => .notFound
    | ordinalOutOfRange .. => .unsupported
  origin := .codec
  message := error.message

end ValueError

/-- A complaint of the index: a row that cannot be read, an ordinal its dictionary lacks, or a
reader or dictionary that does not open. -/
inductive SourceError where
  | read (row : Nat) (reason : String)
  | unknownOrdinal (ordinal size : Nat)
  | unavailable (reason : String)
  deriving DecidableEq, Repr

namespace SourceError

def message : SourceError → String
  | read row reason => "value read failed for row " ++ toString row ++ ": " ++ reason
  | unknownOrdinal ordinal size =>
    "ordinal " ++ toString ordinal ++ " is not in a dictionary of " ++ toString size ++ " terms"
  | unavailable reason => "value source unavailable: " ++ reason

def failure (error : SourceError) : Failure where
  kind := match error with
    | unknownOrdinal .. => .notFound
    | read .. | unavailable .. => .internal
  origin := .source
  message := error.message

end SourceError

/-- A label that does not resolve: its ordinal lies outside the dictionary, or the dictionary fails. -/
inductive LabelError where
  | value (error : ValueError)
  | source (error : SourceError)
  deriving DecidableEq, Repr

def LabelError.failure : LabelError → Failure
  | value error => error.failure
  | source error => error.failure

inductive SettingsError where
  | emptyEventSeparator
  | emptyRangeSeparator
  | malformed
  deriving DecidableEq, Repr

namespace SettingsError

def message : SettingsError → String
  | emptyEventSeparator => "event separator must not be empty"
  | emptyRangeSeparator => "range separator must not be empty"
  | malformed => "config parse failed: the document is not a settings object"

def failure (error : SettingsError) : Failure where
  kind := .unsupported
  origin := .config
  message := error.message

end SettingsError

end Facets
