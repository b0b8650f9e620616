import Ferry.Wire.Reader

/-!
# Variable-length integers

A number is written in groups of seven bits, least significant first, one group
to a byte; the high bit of a byte says that another follows. A 32-bit number
takes at most five bytes and a 64-bit number at most ten. A reader accepts longer
forms than the writer produces (a group of zeros at the end changes nothing) and
drops the bits that do not fit the word.

Signed numbers are ordered by magnitude first: 0, -1, 1, -2, 2, …
-/

namespace Ferry.Varint

/-- The most bytes of a 32-bit number. -/
def maxBytes32 : Nat := 5

/-- The most bytes of a 64-bit number. -/
def maxBytes64 : Nat := 10

/-- Writes a number with as few bytes as possible. -/
def encode (value : Nat) : Bytes :=
  if value < 128 then [UInt8.ofNat value]
  else UInt8.ofNat (128 + value % 128) :: encode (value / 128)

/-- How many bytes a number takes. -/
def size (value : Nat) : Nat :=
  (encode value).length

/-- Reads groups of seven bits up to one without a continuation bit, at most `limit` of them. -/
def groups : (limit : Nat) → Reader (List Nat)
  | 0 => throw .varintTooLong
  | limit + 1 => do
    let byte ← Reader.byte
    if byte < 128 then pure [byte.toNat]
    else do
      let higher ← groups limit
      pure ((byte.toNat - 128) :: higher)

/-- The number whose base-128 digits, least significant first, are the given groups. -/
def ofGroups (digits : List Nat) : Nat :=
  digits.foldr (fun digit higher => digit + 128 * higher) 0

/-- Reads a 32-bit number together with the number of bytes it took. -/
def sized32 : Reader (UInt32 × Nat) := do
  let digits ← groups maxBytes32
  pure (UInt32.ofNat (ofGroups digits), digits.length)

/-- Reads a 32-bit number. -/
def read32 : Reader UInt32 := do
  let digits ← groups maxBytes32
  pure (UInt32.ofNat (ofGroups digits))

/-- Reads a 64-bit number. -/
def read64 : Reader UInt64 := do
  let digits ← groups maxBytes64
  pure (UInt64.ofNat (ofGroups digits))

/-- The place of an integer in the order 0, -1, 1, -2, 2, … -/
def zigzag (value : Int) : Nat :=
  if 0 ≤ value then (2 * value).toNat else (-2 * value - 1).toNat

/-- The integer at a place of the order 0, -1, 1, -2, 2, … -/
def ofZigzag (place : Nat) : Int :=
  if place % 2 = 0 then (place / 2 : Nat) else -((place / 2 : Nat) : Int) - 1

@[simp] theorem ofZigzag_zigzag (value : Int) : ofZigzag (zigzag value) = value := by
  simp only [zigzag, ofZigzag]
  split <;> split <;> omega

@[simp] theorem zigzag_ofZigzag (place : Nat) : zigzag (ofZigzag place) = place := by
  simp only [zigzag, ofZigzag]
  split <;> split <;> omega

/-- Reads a signed 32-bit number. -/
def readSigned32 : Reader Int32 := do
  let place ← read32
  pure (Int32.ofInt (ofZigzag place.toNat))

/-- Reads a signed 64-bit number. -/
def readSigned64 : Reader Int64 := do
  let place ← read64
  pure (Int64.ofInt (ofZigzag place.toNat))

/-- Writes a signed number. -/
def encodeSigned (value : Int) : Bytes :=
  encode (zigzag value)

end Ferry.Varint
