import Facets.Number.Exact
import Facets.Number.Sortable

/-!
The three kinds of numeric fields and how a column stores their values: integers as they are,
singles and doubles by their sortable forms.
-/

namespace Facets

/-- Whether a numeric field holds integers, single-precision or double-precision floats. -/
inductive NumberKind where
  | integer
  | single
  | double
  deriving DecidableEq, Repr, Inhabited

namespace NumberKind

def name : NumberKind → String
  | .integer => "integer"
  | .single => "float"
  | .double => "double"

def ofName? : String → Option NumberKind
  | "integer" => some .integer
  | "float" => some .single
  | "double" => some .double
  | _ => none

/-- The bits of the double that a stored word stands for. Of a single only the low 32 bits are read. -/
def decodeBits : NumberKind → Int64 → UInt64
  | .integer, raw => (Number.ofInt raw.toInt).toBits
  | .single, raw => (Number.widen (Number.unsortable32 raw)).toBits
  | .double, raw => Number.unsortable64 raw

/-- The value a stored word stands for. -/
def decode (kind : NumberKind) (raw : Int64) : Float := Float.ofBits (kind.decodeBits raw)

/-- Whether a word can be stored for a kind: singles occupy 32 bits. -/
def stores : NumberKind → Int64 → Bool
  | .single, raw => raw == raw.toInt32.toInt64
  | _, _ => true

/-- The word a column stores for a double, by its bits: integers lose their fraction, singles are
rounded. -/
def encodeBits : NumberKind → UInt64 → Int64
  | .integer, bits => Number.toInt64 Number.truncate (Float.ofBits bits)
  | .single, bits => Number.sortable32 (Number.narrow (Float.ofBits bits))
  | .double, bits => Number.sortable64 bits

/-- The word a column stores for a value. -/
def encode (kind : NumberKind) (x : Float) : Int64 := kind.encodeBits x.toBits

end NumberKind

end Facets
