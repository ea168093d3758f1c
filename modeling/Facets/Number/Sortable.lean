/-!
Sortable encodings: the bits of a float, rearranged so that the signed order of the words is the
numeric order of the floats. A word with its sign bit set has all its other bits flipped, which
turns sign and magnitude into two's complement; doing it twice changes nothing.

A double is its 64 bits here. As a `Float` it is its value, and there is one NaN for all the bits that
are none.
-/

namespace Facets.Number

/-- Flips every bit but the sign of a 64-bit word whose sign is set. -/
def flipNegative64 (word : UInt64) : UInt64 :=
  if word >>> 63 = 1 then word ^^^ 0x7fffffffffffffff else word

/-- Flips every bit but the sign of a 32-bit word whose sign is set. -/
def flipNegative32 (word : UInt32) : UInt32 :=
  if word >>> 31 = 1 then word ^^^ 0x7fffffff else word

/-- The sortable form of a double's bits. -/
def sortable64 (bits : UInt64) : Int64 := (flipNegative64 bits).toInt64

/-- The double's bits behind a sortable form. -/
def unsortable64 (code : Int64) : UInt64 := flipNegative64 code.toUInt64

/-- The sortable form of a single's bits, widened to 64 bits. -/
def sortable32 (bits : UInt32) : Int64 := (flipNegative32 bits).toInt32.toInt64

/-- The single's bits behind a sortable form; only the low 32 bits of the form count. -/
def unsortable32 (code : Int64) : UInt32 := flipNegative32 code.toInt32.toUInt32

/-- The sortable form of a value. -/
def encode64 (x : Float) : Int64 := sortable64 x.toBits

/-- Whether the bits of a double are those of a NaN: but for the sign, they come after those of
infinity. -/
def isNaN64 (bits : UInt64) : Bool := 0x7ff0000000000000 < bits &&& 0x7fffffffffffffff

/-- The bits of the NaN that stands for all others. -/
def nan64 : UInt64 := 0x7ff8000000000000

end Facets.Number
