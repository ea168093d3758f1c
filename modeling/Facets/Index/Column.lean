import Facets.Index.Dictionary

/-!
Columns of values. A column is read through cursors, each of which it has to open first; what a
cursor answers may depend on the rows it has been asked for before. A column holds at most one value
a row or a set of values, and the values are numbers or ordinals of a dictionary.
-/

namespace Facets

abbrev RowId := Nat

/-- A reader of rows: what it answers for a row, given the rows asked for before, latest first. -/
abbrev Cursor (ρ : Type) := List RowId → RowId → ρ

/-- The answers of a cursor to a list of rows, asked for in order. -/
def Cursor.readFrom {ρ : Type} (cursor : Cursor ρ) : (history : List RowId) → List RowId → List ρ
  | _, [] => []
  | history, row :: rest => cursor history row :: cursor.readFrom (row :: history) rest

def Cursor.readAll {ρ : Type} (cursor : Cursor ρ) (rows : List RowId) : List ρ :=
  cursor.readFrom [] rows

@[simp]
theorem Cursor.length_readFrom {ρ : Type} (cursor : Cursor ρ) (history rows : List RowId) :
    (cursor.readFrom history rows).length = rows.length := by
  induction rows generalizing history with
  | nil => rfl
  | cons row rest ih => simp [readFrom, ih]

/-- The values of a row, and the complaint that cut them short. -/
structure Delivery (α : Type) where
  values : List α
  complaint : Option SourceError

namespace Delivery

variable {α : Type}

def whole (values : List α) : Delivery α := ⟨values, none⟩

def ofSingle : Except SourceError (Option α) → Delivery α
  | .ok value? => ⟨value?.toList, none⟩
  | .error complaint => ⟨[], some complaint⟩

end Delivery

/-- Opens a resource for the `n`-th time, counting from zero. -/
abbrev Opener (α : Type) := (n : Nat) → Except SourceError α

/-- The cursors of a column with at most one value a row, or of one with sets of values. -/
inductive Reader (α : Type) where
  | single (cursor : Opener (Cursor (Except SourceError (Option α))))
  | set (cursor : Opener (Cursor (Delivery α)))

def Reader.openCursor {α : Type} : Reader α → Opener (Cursor (Delivery α))
  | single cursor, n => (cursor n).map fun read history row => .ofSingle (read history row)
  | set cursor, n => cursor n

/-- A column of ordinals, with the size of its bucket space and the dictionary of its terms. -/
structure TermColumn where
  size : Nat
  dictionary : Opener Dictionary
  reader : Reader Ordinal

inductive Column where
  | numeric (reader : Reader Int64)
  | enumerated (column : TermColumn)

inductive Shape where
  | numericSingle
  | numericSet
  | enumSingle
  | enumSet
  deriving DecidableEq, Repr

namespace Shape

def name : Shape → String
  | numericSingle => "numeric-single"
  | numericSet => "numeric-multi"
  | enumSingle => "enum-single"
  | enumSet => "enum-multi"

def isNumeric : Shape → Bool
  | numericSingle | numericSet => true
  | enumSingle | enumSet => false

/-- The layout in words, as columns are described. -/
def describe (shape : Shape) : String := "ValueSource(" ++ shape.name ++ ")"

end Shape

namespace Column

def shape : Column → Shape
  | numeric (.single _) => .numericSingle
  | numeric (.set _) => .numericSet
  | enumerated ⟨_, _, .single _⟩ => .enumSingle
  | enumerated ⟨_, _, .set _⟩ => .enumSet

def size? : Column → Option Nat
  | numeric _ => none
  | enumerated column => some column.size

def dictionary? : Column → Nat → Except SourceError (Option Dictionary)
  | numeric _, _ => .ok none
  | enumerated column, n => (column.dictionary n).map some

end Column

end Facets
