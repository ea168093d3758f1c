import Facets.Activity.Event
import Facets.Index.Dictionary
import Facets.Money

/-!
Labels of buckets of terms. A label looks its term up when it is first needed and keeps it; a lookup
that fails leaves it as it was, to be tried again. Each operation says what it answers, what the
label is afterwards, and which events it reported.
-/

namespace Facets

/-- How a label is shown. -/
inductive LabelStyle where
  | plain
  | category
  | money
  deriving DecidableEq, Repr, Inhabited

def LabelStyle.name : LabelStyle → String
  | .plain => "plain"
  | .category => "category"
  | .money => "money"

structure Label where
  ordinal : Ordinal
  style : LabelStyle
  resolved : Option String
  deriving DecidableEq, Repr

/-- An answer that may need labels: the answer, what was changed, and the events on the way. -/
structure Attempt (σ α : Type) where
  result : Except LabelError α
  after : σ
  events : List Event

namespace Attempt

variable {σ τ α β : Type}

def succeed (after : σ) (value : α) : Attempt σ α := ⟨.ok value, after, []⟩

def map (f : α → β) (attempt : Attempt σ α) : Attempt σ β :=
  { attempt with result := attempt.result.map f }

def mapAfter (f : σ → τ) (attempt : Attempt σ α) : Attempt τ α :=
  { attempt with after := f attempt.after }

/-- Makes an attempt on each element of a list until one fails. What was changed before stays
changed, and the elements after the failure are not touched. -/
def each (attempt : σ → Attempt σ α) : List σ → Attempt (List σ) (List α)
  | [] => ⟨.ok [], [], []⟩
  | x :: rest =>
    let first := attempt x
    match first.result with
    | .error error => ⟨.error error, first.after :: rest, first.events⟩
    | .ok value =>
      let others := each attempt rest
      ⟨others.result.map (value :: ·), first.after :: others.after, first.events ++ others.events⟩

end Attempt

/-- Looks a term up and reports that a label was resolved. -/
def Dictionary.resolve (dictionary : Dictionary) (ordinal : Ordinal) :
    Except LabelError String × List Event :=
  match dictionary.label ordinal with
  | .ok text => (.ok text, [.labelResolved])
  | .error error => (.error error, [])

namespace Label

def fresh (ordinal : Ordinal) (style : LabelStyle) : Label := ⟨ordinal, style, none⟩

def isResolved (label : Label) : Bool := label.resolved.isSome

/-- The text of a label, looked up unless it is known already. -/
def resolve (dictionary : Dictionary) (label : Label) : Attempt Label String :=
  match label.resolved with
  | some text => .succeed label text
  | none =>
    match dictionary.resolve label.ordinal with
    | (.ok text, events) => ⟨.ok text, { label with resolved := some text }, events⟩
    | (.error error, events) => ⟨.error error, label, events⟩

/-- The amount a label of money names. Labels of other styles name none and are not looked up. -/
def amount? (dictionary : Dictionary) (label : Label) : Attempt Label (Option Float) :=
  if label.style = .money then (label.resolve dictionary).map Money.amount?
  else .succeed label none

/-- A label that was asked for its amount, then for its text: the answers, and whether it was resolved
before, between and after. -/
structure View where
  style : LabelStyle
  amount : Except LabelError (Option Float)
  text : Except LabelError String
  resolvedBefore : Bool
  resolvedBetween : Bool
  resolvedAfter : Bool

/-- Asks a label for its amount and then for its text. -/
def probe (dictionary : Dictionary) (label : Label) : View × Label × List Event :=
  let amount := label.amount? dictionary
  let text := amount.after.resolve dictionary
  ({ style := label.style
     amount := amount.result
     text := text.result
     resolvedBefore := label.isResolved
     resolvedBetween := amount.after.isResolved
     resolvedAfter := text.after.isResolved },
    text.after, amount.events ++ text.events)

end Label

end Facets
