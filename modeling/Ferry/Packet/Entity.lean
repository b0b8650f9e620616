import Ferry.Packet.Item
import Ferry.Packet.Metadata

/-!
# Packets about entities

An entity has two ids: the unique id names it to the server for good, the runtime
id names it on one connection.
-/

namespace Ferry

/-- Shows an entity. -/
structure AddEntity where
  uniqueId : Int64
  runtimeId : UInt64
  entityType : String
  position : Vector
  velocity : Vector
  pitch : Single
  yaw : Single
  headYaw : Single
  bodyYaw : Single
  attributes : List Attribute
  metadata : Metadata
  rest : Bytes
  deriving DecidableEq, Repr

namespace AddEntity

/-- Both ids, what the entity is, how it stands and moves, and what is known of it. -/
def layout : Layout AddEntity :=
  (Layout.varInt64.pair (Layout.varUInt64.pair (Layout.text.pair (Vector.layout.pair
    (Vector.layout.pair (Layout.single.pair (Layout.single.pair (Layout.single.pair
    (Layout.single.pair ((Layout.list Attribute.layout).pair (Metadata.layout.pair
    Layout.rest))))))))))).convert
    (fun (uniqueId, runtimeId, entityType, position, velocity, pitch, yaw, headYaw, bodyYaw,
        entries, metadata, rest) =>
      ⟨uniqueId, runtimeId, entityType, position, velocity, pitch, yaw, headYaw, bodyYaw,
        entries, metadata, rest⟩)
    (fun packet => (packet.uniqueId, packet.runtimeId, packet.entityType, packet.position,
      packet.velocity, packet.pitch, packet.yaw, packet.headYaw, packet.bodyYaw,
      packet.attributes, packet.metadata, packet.rest))

/-- The type of an entity whose variant is a block. -/
def fallingBlock : String := "minecraft:falling_block"

end AddEntity

/-- Hides an entity. -/
structure RemoveEntity where
  uniqueId : Int64
  deriving DecidableEq, Repr

/-- A removal names the unique id, not the runtime id. -/
def RemoveEntity.layout : Layout RemoveEntity :=
  Layout.varInt64.convert RemoveEntity.mk RemoveEntity.uniqueId

/-- Shows an item that lies about. -/
structure AddItemEntity where
  uniqueId : Int64
  runtimeId : UInt64
  item : ItemStack
  rest : Bytes
  deriving DecidableEq, Repr

/-- Both ids, the item, and what follows. -/
def AddItemEntity.layout : Layout AddItemEntity :=
  (Layout.varInt64.pair (Layout.varUInt64.pair (ItemStack.layout.pair Layout.rest))).convert
    (fun (uniqueId, runtimeId, item, rest) => ⟨uniqueId, runtimeId, item, rest⟩)
    (fun packet => (packet.uniqueId, packet.runtimeId, packet.item, packet.rest))

/-- Moves an entity. -/
structure MoveEntityAbsolute where
  runtimeId : UInt64
  rest : Bytes
  deriving DecidableEq, Repr

/-- The entity; how it moves is not looked at. -/
def MoveEntityAbsolute.layout : Layout MoveEntityAbsolute :=
  (Layout.varUInt64.pair Layout.rest).convert
    (fun (runtimeId, rest) => ⟨runtimeId, rest⟩) (fun packet => (packet.runtimeId, packet.rest))

/-- Something that happens to an entity. -/
structure EntityEvent where
  runtimeId : UInt64
  event : UInt8
  data : Int32
  deriving DecidableEq, Repr

/-- The entity, what happens to it, and a number. -/
def EntityEvent.layout : Layout EntityEvent :=
  (Layout.varUInt64.pair (Layout.byte.pair Layout.varInt32)).convert
    (fun (runtimeId, event, data) => ⟨runtimeId, event, data⟩)
    (fun packet => (packet.runtimeId, packet.event, packet.data))

/-- Changes the metadata of an entity. -/
structure SetEntityData where
  runtimeId : UInt64
  metadata : Metadata
  rest : Bytes
  deriving DecidableEq, Repr

namespace SetEntityData

/-- The entity, its metadata, and the properties and the tick after them. -/
def layout : Layout SetEntityData :=
  (Layout.varUInt64.pair (Metadata.layout.pair Layout.rest)).convert
    (fun (runtimeId, metadata, rest) => ⟨runtimeId, metadata, rest⟩)
    (fun packet => (packet.runtimeId, packet.metadata, packet.rest))

/-- Freezes an entity. After the metadata come no properties and the tick 0. -/
def immobile (runtimeId : UInt64) : SetEntityData where
  runtimeId := runtimeId
  metadata := Metadata.ofFlags [Metadata.immobile, Metadata.breathing, Metadata.hasGravity]
  rest := Properties.layout.write Properties.empty ++ Layout.varUInt64.write 0

end SetEntityData

/-- Pushes an entity. -/
structure SetEntityMotion where
  runtimeId : UInt64
  motion : Vector
  rest : Bytes
  deriving DecidableEq, Repr

/-- The entity, how it moves, and the tick. -/
def SetEntityMotion.layout : Layout SetEntityMotion :=
  (Layout.varUInt64.pair (Vector.layout.pair Layout.rest)).convert
    (fun (runtimeId, motion, rest) => ⟨runtimeId, motion, rest⟩)
    (fun packet => (packet.runtimeId, packet.motion, packet.rest))

/-- Lets one entity ride another, or ends that. -/
structure SetEntityLink where
  fromId : Int64
  toId : Int64
  linkType : UInt8
  immediate : Bool
  riderInitiated : Bool
  rest : Bytes
  deriving DecidableEq, Repr

namespace SetEntityLink

/-- Who rides what, how the link came about, and what follows. -/
def layout : Layout SetEntityLink :=
  (Layout.varInt64.pair (Layout.varInt64.pair (Layout.byte.pair (Layout.bool.pair
    (Layout.bool.pair Layout.rest))))).convert
    (fun (fromId, toId, linkType, immediate, riderInitiated, rest) =>
      ⟨fromId, toId, linkType, immediate, riderInitiated, rest⟩)
    (fun packet => (packet.fromId, packet.toId, packet.linkType, packet.immediate,
      packet.riderInitiated, packet.rest))

/-- The type of a link that is taken away. -/
def removal : UInt8 := 0

/-- Takes a link away. A link goes on with the angular velocity of the vehicle, 0. -/
def remove (fromId toId : Int64) : SetEntityLink where
  fromId := fromId
  toId := toId
  linkType := removal
  immediate := true
  riderInitiated := false
  rest := Layout.single.write Single.zero

end SetEntityLink

end Ferry
