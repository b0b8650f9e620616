import Ferry.Position
import Ferry.Wire.Tag

/-!
# What is known about an entity

Metadata is a list of keyed values that behaves like a dictionary: the first
entry with a key is the one that counts, and storing under a present key replaces
its value in place. Synced properties and attributes are plain lists.
-/

namespace Ferry

/-- A value of an entity's metadata. -/
inductive MetadataValue where
  | byte (value : UInt8)
  | short (value : Int16)
  | int (value : Int32)
  | float (value : Single)
  | text (value : String)
  | tag (raw : Bytes)
  | block (value : IntVector)
  | long (value : Int64)
  | vector (value : Vector)
  deriving DecidableEq, Repr

namespace MetadataValue

/-- The number that announces the kind of a value. -/
def discriminant : MetadataValue → UInt32
  | .byte _ => 0
  | .short _ => 1
  | .int _ => 2
  | .float _ => 3
  | .text _ => 4
  | .tag _ => 5
  | .block _ => 6
  | .long _ => 7
  | .vector _ => 8

/-- Reads a value of the announced kind. -/
def readOf (discriminant : UInt32) : Reader MetadataValue :=
  match discriminant.toNat with
  | 0 => byte <$> Layout.byte.read
  | 1 => short <$> Layout.int16.read
  | 2 => int <$> Layout.varInt32.read
  | 3 => float <$> Layout.single.read
  | 4 => text <$> Layout.text.read
  | 5 => tag <$> Tag.layout.read
  | 6 => block <$> IntVector.layout.read
  | 7 => long <$> Layout.varInt64.read
  | 8 => vector <$> Vector.layout.read
  | other => throw (.invalidDiscriminant other)

/-- Writes a value without its kind. -/
def payload : MetadataValue → Bytes
  | .byte value => Layout.byte.write value
  | .short value => Layout.int16.write value
  | .int value => Layout.varInt32.write value
  | .float value => Layout.single.write value
  | .text value => Layout.text.write value
  | .tag raw => Tag.layout.write raw
  | .block value => IntVector.layout.write value
  | .long value => Layout.varInt64.write value
  | .vector value => Vector.layout.write value

/-- A metadata value after the number of its kind. -/
def layout : Layout MetadataValue where
  read := do
    let discriminant ← Layout.varUInt32.read
    readOf discriminant
  write value := Layout.varUInt32.write value.discriminant ++ value.payload

end MetadataValue

/-- A metadata value under its key. -/
structure MetadataEntry where
  key : UInt32
  value : MetadataValue
  deriving DecidableEq, Repr

/-- A metadata entry on the wire. -/
def MetadataEntry.layout : Layout MetadataEntry :=
  (Layout.varUInt32.pair MetadataValue.layout).convert
    (fun (key, value) => ⟨key, value⟩) (fun entry => (entry.key, entry.value))

/-- An entity's metadata. -/
structure Metadata where
  entries : List MetadataEntry
  deriving DecidableEq, Repr, Inhabited

namespace Metadata

/-- Metadata on the wire. -/
def layout : Layout Metadata :=
  (Layout.list MetadataEntry.layout).convert Metadata.mk Metadata.entries

/-- No metadata. -/
def empty : Metadata := ⟨[]⟩

/-- The key of the flags. -/
def flagsKey : UInt32 := 0

/-- The key of the block that a falling block is made of. -/
def variantKey : UInt32 := 2

/-- The flag of an entity that does not move. -/
def immobile : Nat := 16

/-- The flag of an entity that breathes. -/
def breathing : Nat := 35

/-- The flag of an entity that falls. -/
def hasGravity : Nat := 46

/-- The value under a key. -/
def get? (metadata : Metadata) (key : UInt32) : Option MetadataValue :=
  (metadata.entries.find? fun entry => entry.key = key).map MetadataEntry.value

/-- Replaces the value of the first entry with the key, or adds an entry at the end. -/
def insertInto (key : UInt32) (value : MetadataValue) : List MetadataEntry → List MetadataEntry
  | [] => [⟨key, value⟩]
  | entry :: entries =>
    if entry.key = key then ⟨key, value⟩ :: entries
    else entry :: insertInto key value entries

/-- Stores a value under a key. -/
def insert (metadata : Metadata) (key : UInt32) (value : MetadataValue) : Metadata :=
  ⟨insertInto key value metadata.entries⟩

/-- Metadata that holds nothing but flags. -/
def ofFlags (flags : List Nat) : Metadata :=
  let bits := flags.foldl (fun bits flag => bits ||| 1 <<< flag) 0
  empty.insert flagsKey (.long (Int64.ofNat bits))

end Metadata

/-- A synced whole-number property. -/
structure IntProperty where
  index : UInt32
  value : Int32
  deriving DecidableEq, Repr

/-- A whole-number property on the wire. -/
def IntProperty.layout : Layout IntProperty :=
  (Layout.varUInt32.pair Layout.varInt32).convert
    (fun (index, value) => ⟨index, value⟩) (fun property => (property.index, property.value))

/-- A synced real-number property. -/
structure FloatProperty where
  index : UInt32
  value : Single
  deriving DecidableEq, Repr

/-- A real-number property on the wire. -/
def FloatProperty.layout : Layout FloatProperty :=
  (Layout.varUInt32.pair Layout.single).convert
    (fun (index, value) => ⟨index, value⟩) (fun property => (property.index, property.value))

/-- The synced properties of an entity. -/
structure Properties where
  ints : List IntProperty
  floats : List FloatProperty
  deriving DecidableEq, Repr, Inhabited

/-- Synced properties on the wire. -/
def Properties.layout : Layout Properties :=
  ((Layout.list IntProperty.layout).pair (Layout.list FloatProperty.layout)).convert
    (fun (ints, floats) => ⟨ints, floats⟩)
    (fun properties => (properties.ints, properties.floats))

/-- No properties. -/
def Properties.empty : Properties := ⟨[], []⟩

/-- An attribute such as health, with its range. -/
structure Attribute where
  name : String
  min : Single
  value : Single
  max : Single
  deriving DecidableEq, Repr, Inhabited

/-- An attribute on the wire. -/
def Attribute.layout : Layout Attribute :=
  (Layout.text.pair (Layout.single.pair (Layout.single.pair Layout.single))).convert
    (fun (name, min, value, max) => ⟨name, min, value, max⟩)
    (fun entry => (entry.name, entry.min, entry.value, entry.max))

end Ferry
