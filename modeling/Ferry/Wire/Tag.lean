import Ferry.Wire.Layout

/-!
# Named binary tags, carried through unread

A tag is a type byte, a name and a payload; an end tag is its type byte alone.
Nothing looks inside a tag, so reading one only finds where it ends. Payloads
nest through lists and compounds, at most `Tag.maxDepth` below the root.
-/

namespace Ferry.Tag

/-- The kinds of payload. -/
inductive Kind where
  | byte
  | short
  | int
  | long
  | float
  | double
  | byteArray
  | text
  | list
  | compound
  | intArray
  | longArray
  deriving DecidableEq, Repr

/-- The type byte of an end tag. -/
def endType : UInt8 := 0

/-- The kind of payload that a type byte announces. -/
def Kind.ofType? (type : UInt8) : Option Kind :=
  [(1, Kind.byte), (2, .short), (3, .int), (4, .long), (5, .float), (6, .double),
    (7, .byteArray), (8, .text), (9, .list), (10, .compound), (11, .intArray),
    (12, .longArray)].lookup type

/-- Reads a length, which must not be negative. -/
def length : Reader Nat := do
  let value ← Varint.readSigned32
  if value < 0 then throw (.negativeTagLength value)
  else pure value.toInt.toNat

/-- Skips the children of a compound up to its end tag. A child takes at least its
type byte, so a fuel above the number of unread bytes never runs out. -/
def children (payload : UInt8 → Reader Unit) : (fuel : Nat) → Reader Unit
  | 0 => Reader.byte *> pure ()
  | fuel + 1 => do
    let type ← Reader.byte
    if type = endType then pure ()
    else do
      let _ ← Layout.text.read
      payload type
      children payload fuel

/-- Skips a payload that may nest `levels` deep, itself included. -/
def payload : (levels : Nat) → (type : UInt8) → Reader Unit
  | 0, _ => throw .tagNestingTooDeep
  | levels + 1, type =>
    match Kind.ofType? type with
    | some .byte => discard (Reader.take 1)
    | some .short => discard (Reader.take 2)
    | some .int => discard Varint.readSigned32
    | some .long => discard Varint.readSigned64
    | some .float => discard (Reader.take 4)
    | some .double => discard (Reader.take 8)
    | some .byteArray => do
      let count ← length
      discard (Reader.take count)
    | some .text => discard Layout.text.read
    | some .list => do
      let element ← Reader.byte
      let count ← length
      Reader.skipMany count (payload levels element)
    | some .compound => fun input => children (payload levels) (input.length + 1) input
    | some .intArray => do
      let count ← length
      Reader.skipMany count (discard Varint.readSigned32)
    | some .longArray => do
      let count ← length
      Reader.skipMany count (discard Varint.readSigned64)
    | none => throw (.unknownTagType type)

/-- Skips one tag. The payload of the root lies at depth 0. -/
def skip : Reader Unit := do
  let type ← Reader.byte
  if type = endType then pure ()
  else do
    let _ ← Layout.text.read
    payload (maxDepth + 1) type

/-- One tag, as its bytes. -/
def layout : Layout Bytes where
  read := Reader.spanOf skip
  write value := value

end Ferry.Tag
