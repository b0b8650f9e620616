import Ferry.Inspect.Hex
import Ferry.Json.Basic
import Ferry.Packet.Header

/-!
# Values as documents

`View` gives a kind of value its form as a document, in both directions. Numbers of
at most 32 bits are numbers and wider ones are decimal texts, so that no reader
loses digits; single-precision numbers are the eight hexadecimal digits of their
bits; byte strings are shown in `Hex` form; a missing value is null.
-/

namespace Ferry

/-- A kind of value that can be shown as a document and read back. -/
class View (α : Type) where
  toDocument : α → Json
  ofDocument? : Json → Option α

/-- The document of a value. -/
def view {α : Type} [View α] (value : α) : Json := View.toDocument value

/-- The value of a document. -/
def Json.as? {α : Type} [View α] (document : Json) : Option α := View.ofDocument? document

/-- The value of a member; a missing member reads like null. -/
def Json.get? {α : Type} [View α] (document : Json) (name : String) : Option α :=
  ((document.member? name).getD .null).as?

/-- The value of a member, or another one where it is missing or null. -/
def Json.getOr {α : Type} [View α] (document : Json) (name : String) (otherwise : α) :
    Option α :=
  match document.member? name with
  | some value => value.as?
  | none => some otherwise

/-- An element of an array. -/
def Json.at? {α : Type} [View α] (document : Json) (index : Nat) : Option α := do
  let elements ← document.elements?
  (elements.getD index .null).as?

/-- Reads a whole number, written as a number or as a decimal text. -/
def Json.asInt? (document : Json) : Option Int :=
  match document with
  | .text written => Json.toInt? (.number written)
  | other => other.toInt?

instance : View Json := ⟨id, some⟩
instance : View Unit := ⟨fun _ => .null, fun _ => some ()⟩
instance : View Bool := ⟨.bool, fun
  | .bool value => some value
  | _ => none⟩
instance : View String := ⟨Json.ofString, Json.toString?⟩
instance : View Nat := ⟨Json.ofNat, fun document => document.asInt?.map Int.toNat⟩
instance : View Int := ⟨Json.ofInt, Json.asInt?⟩
instance : View UInt8 := ⟨fun value => .ofNat value.toNat, fun document =>
  document.asInt?.map fun value => UInt8.ofInt value⟩
instance : View UInt16 := ⟨fun value => .ofNat value.toNat, fun document =>
  document.asInt?.map fun value => UInt16.ofInt value⟩
instance : View UInt32 := ⟨fun value => .ofNat value.toNat, fun document =>
  document.asInt?.map fun value => UInt32.ofInt value⟩
instance : View Int8 := ⟨fun value => .ofInt value.toInt, fun document =>
  document.asInt?.map Int8.ofInt⟩
instance : View Int16 := ⟨fun value => .ofInt value.toInt, fun document =>
  document.asInt?.map Int16.ofInt⟩
instance : View Int32 := ⟨fun value => .ofInt value.toInt, fun document =>
  document.asInt?.map Int32.ofInt⟩

/-- A number as a decimal text. -/
def Json.ofDecimal (value : Int) : Json := .ofString (toString value)

instance : View UInt64 := ⟨fun value => .ofDecimal value.toNat, fun document =>
  document.asInt?.map fun value => UInt64.ofInt value⟩
instance : View Int64 := ⟨fun value => .ofDecimal value.toInt, fun document =>
  document.asInt?.map Int64.ofInt⟩
instance : View Uuid := ⟨fun value => .ofDecimal value.toNat, fun document =>
  document.asInt?.map fun value => Uuid.ofNat value.toNat⟩

instance : View Single where
  toDocument value := .ofString (Hex.encodePlain (Bytes.bigEndian 4 value.bits.toNat))
  ofDocument? document := document.toString?.map fun digits =>
    ⟨UInt32.ofNat (Bytes.ofBigEndian (Hex.decode digits))⟩

instance {α : Type} [View α] : View (Option α) where
  toDocument
    | some value => view value
    | none => .null
  ofDocument?
    | .null => some none
    | document => document.as?.map some

instance {α : Type} [View α] : View (List α) where
  toDocument values := .array (values.map view)
  ofDocument? document := do
    let elements ← document.elements?
    elements.mapM Json.as?

instance {α β : Type} [View α] [View β] : View (α × β) where
  toDocument value := .array [view value.1, view value.2]
  ofDocument? document := do
    some (← document.at? 0, ← document.at? 1)

/-- Byte strings are lists too, but are shown as text. -/
instance (priority := high) : View Bytes where
  toDocument bytes := .ofString (Hex.encode bytes)
  ofDocument? document := document.toString?.map Hex.decode

/-- A document with named members. -/
def record (members : List (String × Json)) : Json := .ofMembers members

instance : View Vector where
  toDocument value := record [("x", view value.x), ("y", view value.y), ("z", view value.z)]
  ofDocument? document := do some ⟨← document.get? "x", ← document.get? "y", ← document.get? "z"⟩

instance : View Rotation where
  toDocument value := record [("pitch", view value.pitch), ("yaw", view value.yaw)]
  ofDocument? document := do some ⟨← document.get? "pitch", ← document.get? "yaw"⟩

instance : View IntVector where
  toDocument value := record [("x", view value.x), ("y", view value.y), ("z", view value.z)]
  ofDocument? document := do some ⟨← document.get? "x", ← document.get? "y", ← document.get? "z"⟩

instance : View BlockPosition where
  toDocument value := record [("x", view value.x), ("y", view value.y), ("z", view value.z)]
  ofDocument? document := do some ⟨← document.get? "x", ← document.get? "y", ← document.get? "z"⟩

instance : View ChunkPosition where
  toDocument value := record [("x", view value.x), ("z", view value.z)]
  ofDocument? document := do some ⟨← document.get? "x", ← document.get? "z"⟩

instance : View ItemStack where
  toDocument value := record [("id", view value.id), ("count", view value.count),
    ("damage", view value.damage), ("net_id", view value.netId),
    ("block_runtime_id", view value.blockId), ("extra", view value.extra)]
  ofDocument? document := do some ⟨← document.get? "id", ← document.get? "count",
    ← document.get? "damage", ← document.get? "net_id", ← document.get? "block_runtime_id",
    ← document.get? "extra"⟩

instance : View ContainerName where
  toDocument value := record [("container_id", view value.containerId),
    ("dynamic_id", view value.dynamicId)]
  ofDocument? document := do some ⟨← document.get? "container_id", ← document.get? "dynamic_id"⟩

/-- A document that names its kind beside its value. -/
def tagged (kind : String) (value : Json) : Json :=
  record [("type", .ofString kind), ("value", value)]

instance : View MetadataValue where
  toDocument
    | .byte value => tagged "Byte" (view value)
    | .short value => tagged "Short" (view value)
    | .int value => tagged "Int" (view value)
    | .float value => tagged "Float" (view value)
    | .text value => tagged "String" (view value)
    | .tag raw => tagged "Nbt" (view raw)
    | .block value => tagged "BlockPos" (view value)
    | .long value => tagged "Long" (view value)
    | .vector value => tagged "Vec3" (view value)
  ofDocument? document := do
    let kind : String ← document.get? "type"
    match kind with
    | "Byte" => MetadataValue.byte <$> document.get? "value"
    | "Short" => MetadataValue.short <$> document.get? "value"
    | "Int" => MetadataValue.int <$> document.get? "value"
    | "Float" => MetadataValue.float <$> document.get? "value"
    | "String" => MetadataValue.text <$> document.get? "value"
    | "Nbt" => MetadataValue.tag <$> document.get? "value"
    | "BlockPos" => MetadataValue.block <$> document.get? "value"
    | "Long" => MetadataValue.long <$> document.get? "value"
    | "Vec3" => MetadataValue.vector <$> document.get? "value"
    | _ => none

instance : View MetadataEntry where
  toDocument entry := record [("key", view entry.key), ("value", view entry.value)]
  ofDocument? document := do some ⟨← document.get? "key", ← document.get? "value"⟩

instance : View Metadata where
  toDocument value := record [("entries", view value.entries)]
  ofDocument? document := do some ⟨← document.get? "entries"⟩

instance : View IntProperty where
  toDocument entry := record [("index", view entry.index), ("value", view entry.value)]
  ofDocument? document := do some ⟨← document.get? "index", ← document.get? "value"⟩

instance : View FloatProperty where
  toDocument entry := record [("index", view entry.index), ("value", view entry.value)]
  ofDocument? document := do some ⟨← document.get? "index", ← document.get? "value"⟩

instance : View Properties where
  toDocument value := record [("ints", view value.ints), ("floats", view value.floats)]
  ofDocument? document := do some ⟨← document.get? "ints", ← document.get? "floats"⟩

instance : View Attribute where
  toDocument entry := record [("name", view entry.name), ("min", view entry.min),
    ("value", view entry.value), ("max", view entry.max)]
  ofDocument? document := do some ⟨← document.get? "name", ← document.get? "min",
    ← document.get? "value", ← document.get? "max"⟩

instance : View SubChunkEntry where
  toDocument entry := record [("offset", view [entry.offsetX, entry.offsetY, entry.offsetZ]),
    ("result", view entry.result), ("payload", view entry.payload),
    ("height_map_type", view entry.heightMapType), ("height_map", view entry.heightMap),
    ("blob_hash", view entry.blobHash)]
  ofDocument? document := do
    let offset : Json ← document.get? "offset"
    some ⟨← offset.at? 0, ← offset.at? 1, ← offset.at? 2, ← document.get? "result",
      ← document.get? "payload", ← document.get? "height_map_type",
      ← document.get? "height_map", ← document.get? "blob_hash"⟩

/-- The members of a player list change. -/
def PlayerList.members : PlayerList → List (String × Json)
  | .add entries => [("list", view "Add"), ("entries", view entries)]
  | .remove uuids => [("list", view "Remove"), ("uuids", view uuids)]

instance : View PlayerList where
  toDocument value := record value.members
  ofDocument? document := do
    let kind : String ← document.get? "list"
    if kind = "Add" then PlayerList.add <$> document.get? "entries"
    else PlayerList.remove <$> document.get? "uuids"

end Ferry
