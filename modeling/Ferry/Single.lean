/-!
# Single-precision numbers as bit patterns

Coordinates and angles are carried through unchanged, not computed with, so a
number is its 32 bits: every not-a-number payload survives and equality is
equality of patterns. The one arithmetic use is finding the block that holds a
position, which `floor` answers from the fields of the pattern.
-/

namespace Ferry

/-- A single-precision number: one sign bit, eight exponent bits, 23 fraction bits. -/
structure Single where
  bits : UInt32
  deriving DecidableEq, Repr, Inhabited

namespace Single

/-- Positive zero. -/
def zero : Single := ⟨0⟩

/-- Whether the sign bit is set. -/
def isNegative (value : Single) : Bool :=
  value.bits ≥ 0x80000000

/-- The biased exponent. -/
def exponent (value : Single) : Nat :=
  value.bits.toNat / 0x800000 % 256

/-- The fraction bits. -/
def fraction (value : Single) : Nat :=
  value.bits.toNat % 0x800000

/-- Whether the pattern stands for no number. -/
def isNaN (value : Single) : Bool :=
  value.exponent = 255 && value.fraction ≠ 0

/-- The magnitude of a finite number in units of 2^-149, the smallest positive one. -/
def magnitude (value : Single) : Nat :=
  if value.exponent = 0 then value.fraction
  else (0x800000 + value.fraction) <<< (value.exponent - 1)

/-- The finite number's value in units of 2^-149. -/
def units (value : Single) : Int :=
  if value.isNegative then -(value.magnitude : Int) else value.magnitude

/-- The nearest 32-bit integer to `value`; an integer outside the range is moved to its end. -/
def clampInt32 (value : Int) : Int32 :=
  Int32.ofInt (max Int32.minValue.toInt (min value Int32.maxValue.toInt))

/-- The largest integer at most the number, moved into the 32-bit range; 0 for no number. -/
def floor (value : Single) : Int32 :=
  if value.exponent = 255 then
    if value.fraction ≠ 0 then 0
    else if value.isNegative then Int32.minValue else Int32.maxValue
  else clampInt32 (Int.fdiv value.units (1 <<< 149 : Nat))

end Single

end Ferry
