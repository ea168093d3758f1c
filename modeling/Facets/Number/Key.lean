import Facets.Number.Sortable

/-!
A total order on doubles. A key is the sortable form of a double's bits, once those of any NaN have
become those of one, so keys order as numbers do, with negative zero just below zero and NaN above
positive infinity.
-/

namespace Facets

/-- A double's place in the total order. -/
structure ValueKey where
  code : Int64
  deriving DecidableEq, Repr

namespace ValueKey

/-- The key of a double, by its bits. -/
def ofBits (bits : UInt64) : ValueKey :=
  ⟨Number.sortable64 (if Number.isNaN64 bits then Number.nan64 else bits)⟩

/-- The bits of the double that a key stands for. -/
def bits (key : ValueKey) : UInt64 := Number.unsortable64 key.code

def ofValue (x : Float) : ValueKey := ofBits x.toBits

def value (key : ValueKey) : Float := Float.ofBits key.bits

instance : LT ValueKey := ⟨fun a b => a.code < b.code⟩

instance : LE ValueKey := ⟨fun a b => a.code ≤ b.code⟩

instance : DecidableLT ValueKey := fun a b => inferInstanceAs (Decidable (a.code < b.code))

instance : DecidableLE ValueKey := fun a b => inferInstanceAs (Decidable (a.code ≤ b.code))

def compare (a b : ValueKey) : Ordering := Ord.compare a.code b.code

end ValueKey

namespace Number

def lower (x y : Float) : Float := if ValueKey.ofValue x ≤ ValueKey.ofValue y then x else y

def higher (x y : Float) : Float := if ValueKey.ofValue x ≤ ValueKey.ofValue y then y else x

def extremes? : List Float → Option (Float × Float)
  | [] => none
  | x :: rest => some (rest.foldl lower x, rest.foldl higher x)

end Number

end Facets
