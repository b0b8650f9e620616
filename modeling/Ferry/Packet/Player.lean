import Ferry.Packet.Item
import Ferry.Packet.Metadata

/-!
# Packets about players

What the proxy does not look at is carried in the `rest` of a packet, up to its
end.
-/

namespace Ferry

/-- Spawns the client's own player. -/
structure StartGame where
  uniqueId : Int64
  runtimeId : UInt64
  gamemode : Int32
  position : Vector
  rotation : Rotation
  seed : UInt64
  spawnBiomeType : Int16
  customBiomeName : String
  dimension : Int32
  rest : Bytes
  deriving DecidableEq, Repr

/-- The fields up to the dimension; the settings of the world are kept as they are. -/
def StartGame.layout : Layout StartGame :=
  (Layout.varInt64.pair (Layout.varUInt64.pair (Layout.varInt32.pair
    (Vector.layout.pair (Rotation.layout.pair (Layout.uint64.pair (Layout.int16.pair
    (Layout.text.pair (Layout.varInt32.pair Layout.rest))))))))).convert
    (fun (uniqueId, runtimeId, gamemode, position, rotation, seed, biome, biomeName,
        dimension, rest) =>
      ⟨uniqueId, runtimeId, gamemode, position, rotation, seed, biome, biomeName,
        dimension, rest⟩)
    (fun packet => (packet.uniqueId, packet.runtimeId, packet.gamemode, packet.position,
      packet.rotation, packet.seed, packet.spawnBiomeType, packet.customBiomeName,
      packet.dimension, packet.rest))

/-- The client has spawned its player. -/
structure SetLocalPlayerAsInitialized where
  runtimeId : UInt64
  deriving DecidableEq, Repr

/-- The runtime id of the player. -/
def SetLocalPlayerAsInitialized.layout : Layout SetLocalPlayerAsInitialized :=
  Layout.varUInt64.convert SetLocalPlayerAsInitialized.mk SetLocalPlayerAsInitialized.runtimeId

/-- The client asks how far it may see. -/
structure RequestChunkRadius where
  radius : Int32
  maxRadius : UInt8
  deriving DecidableEq, Repr

/-- The radius asked for and the largest that the client can show. -/
def RequestChunkRadius.layout : Layout RequestChunkRadius :=
  (Layout.varInt32.pair Layout.byte).convert
    (fun (radius, maxRadius) => ⟨radius, maxRadius⟩)
    (fun packet => (packet.radius, packet.maxRadius))

/-- The server answers how far the client may see. -/
structure ChunkRadiusUpdated where
  radius : Int32
  deriving DecidableEq, Repr

/-- The radius. -/
def ChunkRadiusUpdated.layout : Layout ChunkRadiusUpdated :=
  Layout.varInt32.convert ChunkRadiusUpdated.mk ChunkRadiusUpdated.radius

/-- Something that the player does. -/
structure PlayerAction where
  runtimeId : UInt64
  action : Int32
  rest : Bytes
  deriving DecidableEq, Repr

namespace PlayerAction

/-- The player, the action, and where it takes place. -/
def layout : Layout PlayerAction :=
  (Layout.varUInt64.pair (Layout.varInt32.pair Layout.rest)).convert
    (fun (runtimeId, action, rest) => ⟨runtimeId, action, rest⟩)
    (fun packet => (packet.runtimeId, packet.action, packet.rest))

/-- The client has arrived in the dimension that it was sent to. -/
def dimensionChangeSuccess : Int32 := 14

end PlayerAction

/-- Moves a player. -/
structure MovePlayer where
  runtimeId : UInt64
  position : Vector
  pitch : Single
  yaw : Single
  headYaw : Single
  mode : UInt8
  onGround : Bool
  ridingRuntimeId : UInt64
  rest : Bytes
  deriving DecidableEq, Repr

namespace MovePlayer

/-- The player, where it stands and looks, how it got there, and what follows. -/
def layout : Layout MovePlayer :=
  (Layout.varUInt64.pair (Vector.layout.pair (Layout.single.pair (Layout.single.pair
    (Layout.single.pair (Layout.byte.pair (Layout.bool.pair (Layout.varUInt64.pair
    Layout.rest)))))))).convert
    (fun (runtimeId, position, pitch, yaw, headYaw, mode, onGround, riding, rest) =>
      ⟨runtimeId, position, pitch, yaw, headYaw, mode, onGround, riding, rest⟩)
    (fun packet => (packet.runtimeId, packet.position, packet.pitch, packet.yaw,
      packet.headYaw, packet.mode, packet.onGround, packet.ridingRuntimeId, packet.rest))

/-- The mode of a movement that the player did not make. -/
def teleportMode : UInt8 := 2

/-- A teleport goes on with its cause (unknown), the type of the entity that caused
it (none) and the tick 0. -/
def teleportRest : Bytes :=
  Layout.int32.write 0 ++ Layout.int32.write 0 ++ Layout.varUInt64.write 0

/-- Puts a player somewhere else. -/
def teleport (runtimeId : UInt64) (position : Vector) (rotation : Rotation) : MovePlayer where
  runtimeId := runtimeId
  position := position
  pitch := rotation.pitch
  yaw := rotation.yaw
  headYaw := rotation.yaw
  mode := teleportMode
  onGround := false
  ridingRuntimeId := 0
  rest := teleportRest

end MovePlayer

/-- The 128-bit id of an account. -/
structure Uuid where
  high : UInt64
  low : UInt64
  deriving DecidableEq, Repr, Inhabited

namespace Uuid

/-- The high word before the low one, each with its least significant byte first. -/
def layout : Layout Uuid :=
  (Layout.uint64.pair Layout.uint64).convert
    (fun (high, low) => ⟨high, low⟩) (fun uuid => (uuid.high, uuid.low))

/-- The id as one number. -/
def toNat (uuid : Uuid) : Nat :=
  uuid.high.toNat * UInt64.size + uuid.low.toNat

/-- The id with a number, modulo 2^128. -/
def ofNat (number : Nat) : Uuid :=
  ⟨UInt64.ofNat (number / UInt64.size), UInt64.ofNat number⟩

end Uuid

/-- Shows another player. -/
structure AddPlayer where
  uuid : Uuid
  username : String
  runtimeId : UInt64
  platformChatId : String
  position : Vector
  velocity : Vector
  pitch : Single
  yaw : Single
  headYaw : Single
  heldItem : ItemStack
  gamemode : Int32
  metadata : Metadata
  properties : Properties
  uniqueId : Int64
  rest : Bytes
  deriving DecidableEq, Repr

/-- Who the player is, how it stands and moves, and what is known of it. The unique id
comes late, among the abilities. -/
def AddPlayer.layout : Layout AddPlayer :=
  (Uuid.layout.pair (Layout.text.pair (Layout.varUInt64.pair (Layout.text.pair
    (Vector.layout.pair (Vector.layout.pair (Layout.single.pair (Layout.single.pair
    (Layout.single.pair (ItemStack.layout.pair (Layout.varInt32.pair (Metadata.layout.pair
    (Properties.layout.pair (Layout.int64.pair Layout.rest)))))))))))))).convert
    (fun (uuid, username, runtimeId, chatId, position, velocity, pitch, yaw, headYaw,
        heldItem, gamemode, metadata, properties, uniqueId, rest) =>
      ⟨uuid, username, runtimeId, chatId, position, velocity, pitch, yaw, headYaw,
        heldItem, gamemode, metadata, properties, uniqueId, rest⟩)
    (fun packet => (packet.uuid, packet.username, packet.runtimeId, packet.platformChatId,
      packet.position, packet.velocity, packet.pitch, packet.yaw, packet.headYaw,
      packet.heldItem, packet.gamemode, packet.metadata, packet.properties, packet.uniqueId,
      packet.rest))

/-- Changes the list of players. Added entries carry skins and are not looked at. -/
inductive PlayerList where
  | add (entries : Bytes)
  | remove (uuids : List Uuid)
  deriving DecidableEq, Repr

namespace PlayerList

/-- Reads the change that a discriminant announces. -/
def readOf (discriminant : UInt8) : Reader PlayerList :=
  if discriminant = 0 then add <$> Layout.rest.read
  else if discriminant = 1 then remove <$> (Layout.list Uuid.layout).read
  else throw (.invalidDiscriminant discriminant.toNat)

/-- A byte tells the two changes apart. -/
def layout : Layout PlayerList where
  read := do
    let discriminant ← Reader.byte
    readOf discriminant
  write
    | .add entries => 0 :: entries
    | .remove uuids => 1 :: (Layout.list Uuid.layout).write uuids

end PlayerList

/-- Shows what an entity holds. -/
structure MobEquipment where
  runtimeId : UInt64
  item : ItemStack
  inventorySlot : UInt8
  hotbarSlot : UInt8
  windowId : UInt8
  deriving DecidableEq, Repr

/-- Who holds what, and in which slots it lies. -/
def MobEquipment.layout : Layout MobEquipment :=
  (Layout.varUInt64.pair (ItemStack.layout.pair (Layout.byte.pair (Layout.byte.pair
    Layout.byte)))).convert
    (fun (runtimeId, item, inventorySlot, hotbarSlot, windowId) =>
      ⟨runtimeId, item, inventorySlot, hotbarSlot, windowId⟩)
    (fun packet => (packet.runtimeId, packet.item, packet.inventorySlot, packet.hotbarSlot,
      packet.windowId))

end Ferry
