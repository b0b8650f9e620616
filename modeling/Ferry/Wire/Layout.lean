import Ferry.Single
import Ferry.Wire.Varint

/-!
# Layouts: a reader and a writer from one description

A `Layout` says how a kind of value lies on the wire, once for both directions.
Layouts of records are chained from layouts of their fields, in wire order; a
field whose presence or form hangs on earlier fields is chained with
`Layout.chain`, and a field that is absent is `Layout.constant`.
-/

namespace Ferry

/-- How a kind of value is read and written. -/
structure Layout (α : Type) where
  read : Reader α
  write : α → Bytes

namespace Layout

variable {α β : Type}

/-- A value that takes no bytes. -/
def constant (value : α) : Layout α where
  read := pure value
  write _ := []

/-- One value after another. -/
def pair (first : Layout α) (second : Layout β) : Layout (α × β) where
  read := do
    let left ← first.read
    let right ← second.read
    pure (left, right)
  write value := first.write value.1 ++ second.write value.2

/-- One value after another whose layout hangs on the first. -/
def chain (first : Layout α) (second : α → Layout β) : Layout (α × β) where
  read := do
    let left ← first.read
    let right ← (second left).read
    pure (left, right)
  write value := first.write value.1 ++ (second value.1).write value.2

/-- The same bytes for another type of value. -/
def convert (layout : Layout α) (pack : α → β) (unpack : β → α) : Layout β where
  read := pack <$> layout.read
  write value := layout.write (unpack value)

/-- A field that is there only under a condition, and `absent` otherwise. -/
def onlyIf (present : Bool) (layout : Layout α) (absent : α) : Layout α :=
  if present then layout else constant absent

/-- One byte. -/
def byte : Layout UInt8 where
  read := Reader.byte
  write value := [value]

/-- A word of `width` bytes, least significant first. -/
def word (width : Nat) (ofNat : Nat → α) (toNat : α → Nat) : Layout α where
  read := do
    let digits ← Reader.take width
    pure (ofNat (Bytes.ofLittleEndian digits))
  write value := Bytes.littleEndian width (toNat value)

/-- One signed byte. -/
def int8 : Layout Int8 := byte.convert UInt8.toInt8 Int8.toUInt8

/-- Two bytes. -/
def uint16 : Layout UInt16 := word 2 UInt16.ofNat UInt16.toNat

/-- Two signed bytes. -/
def int16 : Layout Int16 := uint16.convert UInt16.toInt16 Int16.toUInt16

/-- Four bytes. -/
def uint32 : Layout UInt32 := word 4 UInt32.ofNat UInt32.toNat

/-- Four signed bytes. -/
def int32 : Layout Int32 := uint32.convert UInt32.toInt32 Int32.toUInt32

/-- Eight bytes. -/
def uint64 : Layout UInt64 := word 8 UInt64.ofNat UInt64.toNat

/-- Eight signed bytes. -/
def int64 : Layout Int64 := uint64.convert UInt64.toInt64 Int64.toUInt64

/-- Four signed bytes, most significant first: the form of the first packets of a login. -/
def int32BigEndian : Layout Int32 where
  read := do
    let digits ← Reader.take 4
    pure (UInt32.ofNat (Bytes.ofBigEndian digits)).toInt32
  write value := Bytes.bigEndian 4 value.toUInt32.toNat

/-- A single-precision number. -/
def single : Layout Single := uint32.convert Single.mk Single.bits

/-- A truth value: one byte, 0 or 1. -/
def bool : Layout Bool where
  read := do
    let pattern ← Reader.byte
    if pattern = 0 then pure false
    else if pattern = 1 then pure true
    else throw (.invalidBool pattern)
  write value := [if value then 1 else 0]

/-- An unsigned 32-bit variable-length integer. -/
def varUInt32 : Layout UInt32 where
  read := Varint.read32
  write value := Varint.encode value.toNat

/-- An unsigned 64-bit variable-length integer. -/
def varUInt64 : Layout UInt64 where
  read := Varint.read64
  write value := Varint.encode value.toNat

/-- A signed 32-bit variable-length integer. -/
def varInt32 : Layout Int32 where
  read := Varint.readSigned32
  write value := Varint.encodeSigned value.toInt

/-- A signed 64-bit variable-length integer. -/
def varInt64 : Layout Int64 where
  read := Varint.readSigned64
  write value := Varint.encodeSigned value.toInt

/-- A count in a 16-bit word; a larger count is written as the largest that fits. -/
def count16 : Layout Nat :=
  uint16.convert UInt16.toNat fun count => UInt16.ofNat (min count (UInt16.size - 1))

/-- A count in a 32-bit word; a larger count is written as the largest that fits. -/
def count32 : Layout Nat :=
  uint32.convert UInt32.toNat fun count => UInt32.ofNat (min count (UInt32.size - 1))

/-- A count as a variable-length integer; a larger count is written as the largest that fits. -/
def varCount : Layout Nat :=
  varUInt32.convert UInt32.toNat fun count => UInt32.ofNat (min count (UInt32.size - 1))

/-- Exactly `count` bytes when read; whatever is given when written. -/
def bytesOf (count : Nat) : Layout Bytes where
  read := Reader.take count
  write value := value

/-- Everything up to the end of the body. -/
def rest : Layout Bytes where
  read := Reader.rest
  write value := value

/-- A byte string after its length. -/
def byteArray : Layout Bytes where
  read := do
    let length ← varCount.read
    if length > bufferLimit then throw (.arrayTooLong length)
    else Reader.take length
  write value := varCount.write value.length ++ value

/-- A text after its length in UTF-8 bytes. -/
def text : Layout String where
  read := do
    let bytes ← byteArray.read
    match String.fromUTF8? (Bytes.pack bytes) with
    | some text => pure text
    | none => throw (.invalidText (Utf8.fault bytes))
  write value := byteArray.write (Bytes.ofString value)

/-- Values of one kind after their count. -/
def counted (count : Layout Nat) (element : Layout α) : Layout (List α) where
  read := do
    let length ← count.read
    Reader.many length element.read
  write values := count.write values.length ++ values.flatMap element.write

/-- Values of one kind after their count as a variable-length integer. -/
def list (element : Layout α) : Layout (List α) :=
  counted varCount element

/-- A value after a truth value that says whether it is there. -/
def optional (layout : Layout α) : Layout (Option α) where
  read := do
    let present ← bool.read
    if present then some <$> layout.read else pure none
  write
    | some value => bool.write true ++ layout.write value
    | none => bool.write false

end Layout

end Ferry
