import Ferry.Packet.Basic
import Ferry.Palette.Sharing
import Ferry.Terrain

/-!
# The client's numbers and the backend's

A client keeps the entity ids and the palettes that it learned from its first backend
for as long as it is connected. A `Mapping` says how they correspond to those of the
backend it is on now, and `Mapping.packet` carries a packet from one side to the other.

The player's own ids are swapped: the client's id becomes the backend's and the
backend's becomes the client's, so that another entity with either id keeps an id of its
own. A swap is its own inverse, whichever way a packet travels.
-/

namespace Ferry

/-- Which way a packet travels. -/
inductive Direction where
  /-- From a backend to the client. -/
  | clientbound
  /-- From the client to a backend. -/
  | serverbound
  deriving DecidableEq, Repr

/-- The ids of the player's own entity. -/
structure PlayerIds where
  runtimeId : UInt64
  uniqueId : Int64
  deriving DecidableEq, Repr, Inhabited

/-- How the client's numbers correspond to those of the current backend. -/
structure Mapping where
  /-- The ids that the client knows itself by, from the moment it knows them. -/
  clientIds : Option PlayerIds
  /-- The ids that the current backend gave the player. -/
  backend : PlayerIds
  blocks : Renumbering BlockId
  items : Renumbering ItemId
  /-- The block palette that the client has learned. -/
  clientBlocks : Option (SharedPalette BlockId)
  /-- The item palette that the client has learned. -/
  clientItems : Option (SharedPalette ItemId)

namespace Mapping

/-- The mapping of a client that has not met a backend yet. Its ids may be laid down
beforehand; otherwise it takes those of its first backend. -/
def start (clientIds : Option PlayerIds) : Mapping where
  clientIds := clientIds
  backend := clientIds.getD ⟨0, 0⟩
  blocks := .identity
  items := .identity
  clientBlocks := none
  clientItems := none

/-- The ids that the client knows itself by. -/
def client (mapping : Mapping) : PlayerIds := mapping.clientIds.getD mapping.backend

/-- The mapping to a backend with these ids and palettes. What the client has not learned
before, it learns from this backend. -/
def adopt (mapping : Mapping) (ids : PlayerIds) (blocks : SharedPalette BlockId)
    (items : SharedPalette ItemId) : Mapping :=
  let clientBlocks := mapping.clientBlocks.getD blocks
  let clientItems := mapping.clientItems.getD items
  { clientIds := some (mapping.clientIds.getD ids)
    backend := ids
    blocks := .ofPalettes clientBlocks blocks
    items := .ofPalettes clientItems items
    clientBlocks := some clientBlocks
    clientItems := some clientItems }

/-! ## Single numbers -/

/-- Exchanges two numbers and leaves every other one alone. -/
def swap {ι : Type} [DecidableEq ι] (client backend id : ι) : ι :=
  if id = backend then client else if id = client then backend else id

/-- The runtime id of an entity on the other side. -/
def runtimeId (mapping : Mapping) (id : UInt64) : UInt64 :=
  swap mapping.client.runtimeId mapping.backend.runtimeId id

/-- The unique id of an entity on the other side. -/
def uniqueId (mapping : Mapping) (id : Int64) : Int64 :=
  swap mapping.client.uniqueId mapping.backend.uniqueId id

/-- A block on the other side. -/
def block (mapping : Mapping) (direction : Direction) (id : BlockId) : BlockId :=
  match direction with
  | .clientbound => mapping.blocks.toClient id
  | .serverbound => mapping.blocks.toBackend id

/-- A block in a signed field on the other side. -/
def signedBlock (mapping : Mapping) (direction : Direction) (id : Int32) : Int32 :=
  (mapping.block direction id.toUInt32).toInt32

/-- The kind of an item on the other side. -/
def itemId (mapping : Mapping) (direction : Direction) (id : ItemId) : ItemId :=
  match direction with
  | .clientbound => mapping.items.toClient id
  | .serverbound => mapping.items.toBackend id

/-- An item stack on the other side. An item that places no block has the block 0 on both
sides. -/
def item (mapping : Mapping) (direction : Direction) (stack : ItemStack) : ItemStack :=
  if stack.isAir then stack
  else
    { stack with
      id := mapping.itemId direction stack.id
      blockId :=
        if stack.blockId = 0 then 0 else mapping.signedBlock direction stack.blockId }

/-! ## Parts of packets -/

/-- The metadata of a falling block on the other side. -/
def fallingBlock (mapping : Mapping) (direction : Direction) (metadata : Metadata) : Metadata :=
  match metadata.get? Metadata.variantKey with
  | some (.int block) =>
    metadata.insert Metadata.variantKey (.int (mapping.signedBlock direction block))
  | _ => metadata

/-- The data of a chunk column for the client. Data that cannot be read are left alone. -/
def chunkData (mapping : Mapping) (count : Nat) (data : Bytes) : Bytes :=
  match Terrain.renumber mapping.blocks count data with
  | .ok (some renumbered) => renumbered
  | _ => data

/-- A chunk column for the client. -/
def levelChunk (mapping : Mapping) (chunk : LevelChunk) : LevelChunk :=
  if chunk.hasInlineSubChunks then
    { chunk with data := mapping.chunkData chunk.subChunkCount.toNat chunk.data }
  else chunk

/-- A sub-chunk for the client, where there is one. -/
def subChunkEntry (mapping : Mapping) (entry : SubChunkEntry) : SubChunkEntry :=
  if entry.result = SubChunkEntry.success then
    { entry with payload := mapping.chunkData 1 entry.payload }
  else entry

/-- Sub-chunks for the client. With the cache, their blocks travel elsewhere. -/
def subChunk (mapping : Mapping) (packet : SubChunk) : SubChunk :=
  if packet.cacheEnabled then packet
  else { packet with entries := packet.entries.map mapping.subChunkEntry }

/-- The bits of a cracking event's data that name the block. -/
def crackMask : Int32 := 0x00ffffff

/-- The data of a cracking event on the other side: the face above the block. -/
def crackData (mapping : Mapping) (direction : Direction) (data : Int32) : Int32 :=
  let face := data &&& ~~~crackMask
  face ||| (mapping.signedBlock direction (data &&& crackMask) &&& crackMask)

/-- The data of an event on the other side. -/
def eventData (mapping : Mapping) (direction : Direction) (event data : Int32) : Int32 :=
  if event = LevelEvent.destroyBlock then mapping.signedBlock direction data
  else if event = LevelEvent.crackBlock then mapping.crackData direction data
  else data

/-! ## Packets -/

/-- A packet on the other side. -/
def packet (mapping : Mapping) (direction : Direction) : Packet → Packet
  | .startGame packet => .startGame { packet with
      runtimeId := mapping.runtimeId packet.runtimeId
      uniqueId := mapping.uniqueId packet.uniqueId }
  | .addPlayer packet => .addPlayer { packet with
      runtimeId := mapping.runtimeId packet.runtimeId
      uniqueId := mapping.uniqueId packet.uniqueId
      heldItem := mapping.item direction packet.heldItem }
  | .addEntity packet => .addEntity { packet with
      runtimeId := mapping.runtimeId packet.runtimeId
      uniqueId := mapping.uniqueId packet.uniqueId
      metadata :=
        if packet.entityType = AddEntity.fallingBlock then
          mapping.fallingBlock direction packet.metadata
        else packet.metadata }
  | .addItemEntity packet => .addItemEntity { packet with
      runtimeId := mapping.runtimeId packet.runtimeId
      uniqueId := mapping.uniqueId packet.uniqueId
      item := mapping.item direction packet.item }
  | .removeEntity packet => .removeEntity ⟨mapping.uniqueId packet.uniqueId⟩
  | .moveEntityAbsolute packet => .moveEntityAbsolute { packet with
      runtimeId := mapping.runtimeId packet.runtimeId }
  | .movePlayer packet => .movePlayer { packet with
      runtimeId := mapping.runtimeId packet.runtimeId
      ridingRuntimeId := mapping.runtimeId packet.ridingRuntimeId }
  | .entityEvent packet => .entityEvent { packet with
      runtimeId := mapping.runtimeId packet.runtimeId }
  | .playerAction packet => .playerAction { packet with
      runtimeId := mapping.runtimeId packet.runtimeId }
  | .setEntityData packet => .setEntityData { packet with
      runtimeId := mapping.runtimeId packet.runtimeId }
  | .setEntityMotion packet => .setEntityMotion { packet with
      runtimeId := mapping.runtimeId packet.runtimeId }
  | .setEntityLink packet => .setEntityLink { packet with
      fromId := mapping.uniqueId packet.fromId
      toId := mapping.uniqueId packet.toId }
  | .setLocalPlayerAsInitialized packet =>
    .setLocalPlayerAsInitialized ⟨mapping.runtimeId packet.runtimeId⟩
  | .mobEquipment packet => .mobEquipment { packet with
      runtimeId := mapping.runtimeId packet.runtimeId
      item := mapping.item direction packet.item }
  | .inventoryContent packet => .inventoryContent { packet with
      items := packet.items.map (mapping.item direction) }
  | .inventorySlot packet => .inventorySlot { packet with
      item := mapping.item direction packet.item }
  | .updateBlock packet => .updateBlock { packet with
      blockId := mapping.block direction packet.blockId }
  | .levelEvent packet => .levelEvent { packet with
      data := mapping.eventData direction packet.event packet.data }
  | .levelSoundEvent packet => .levelSoundEvent { packet with
      extraData :=
        if packet.carriesBlock then mapping.signedBlock direction packet.extraData
        else packet.extraData }
  | .levelChunk packet =>
    match direction with
    | .clientbound => .levelChunk (mapping.levelChunk packet)
    | .serverbound => .levelChunk packet
  | .subChunk packet =>
    match direction with
    | .clientbound => .subChunk (mapping.subChunk packet)
    | .serverbound => .subChunk packet
  | other => other

/-! ## What counts as changed

Whoever carries a packet reports, rule by rule, whether it has changed; the packet itself is not
compared. -/

/-- Whether exchanging two numbers changes a number. -/
def swaps {ι : Type} [DecidableEq ι] (client backend id : ι) : Bool :=
  client ≠ backend && (id = backend || id = client)

/-- Whether the runtime id of an entity changes. -/
def changesRuntimeId (mapping : Mapping) (id : UInt64) : Bool :=
  swaps mapping.client.runtimeId mapping.backend.runtimeId id

/-- Whether the unique id of an entity changes. -/
def changesUniqueId (mapping : Mapping) (id : Int64) : Bool :=
  swaps mapping.client.uniqueId mapping.backend.uniqueId id

/-- Whether a block in a signed field changes. -/
def changesSignedBlock (mapping : Mapping) (direction : Direction) (id : Int32) : Bool :=
  mapping.signedBlock direction id ≠ id

/-- Whether an item stack changes. -/
def changesItem (mapping : Mapping) (direction : Direction) (stack : ItemStack) : Bool :=
  !stack.isAir && (mapping.itemId direction stack.id ≠ stack.id ||
    (stack.blockId ≠ 0 && mapping.changesSignedBlock direction stack.blockId))

/-- Whether the metadata of a falling block change. -/
def changesFallingBlock (mapping : Mapping) (direction : Direction) (metadata : Metadata) : Bool :=
  match metadata.get? Metadata.variantKey with
  | some (.int block) => mapping.changesSignedBlock direction block
  | _ => false

/-- Whether the data of a chunk column change. -/
def changesChunkData (mapping : Mapping) (count : Nat) (data : Bytes) : Bool :=
  match Terrain.renumber mapping.blocks count data with
  | .ok (some _) => true
  | _ => false

/-- Whether a chunk column changes. -/
def changesLevelChunk (mapping : Mapping) (chunk : LevelChunk) : Bool :=
  chunk.hasInlineSubChunks && mapping.changesChunkData chunk.subChunkCount.toNat chunk.data

/-- Whether a sub-chunk changes. -/
def changesSubChunkEntry (mapping : Mapping) (entry : SubChunkEntry) : Bool :=
  entry.result = SubChunkEntry.success && mapping.changesChunkData 1 entry.payload

/-- Whether one of the sub-chunks changes. -/
def changesSubChunk (mapping : Mapping) (packet : SubChunk) : Bool :=
  !packet.cacheEnabled && packet.entries.any mapping.changesSubChunkEntry

/-- Whether the data of an event change. A cracking event counts as changed even where its block
changes in no other bits than those of the face. -/
def changesEventData (mapping : Mapping) (direction : Direction) (event data : Int32) : Bool :=
  if event = LevelEvent.destroyBlock then mapping.changesSignedBlock direction data
  else if event = LevelEvent.crackBlock then
    mapping.changesSignedBlock direction (data &&& crackMask)
  else false

/-- Whether a packet counts as changed on its way to the other side. -/
def changes (mapping : Mapping) (direction : Direction) : Packet → Bool
  | .startGame packet =>
    mapping.changesRuntimeId packet.runtimeId || mapping.changesUniqueId packet.uniqueId
  | .addPlayer packet =>
    mapping.changesRuntimeId packet.runtimeId || mapping.changesUniqueId packet.uniqueId ||
      mapping.changesItem direction packet.heldItem
  | .addEntity packet =>
    mapping.changesRuntimeId packet.runtimeId || mapping.changesUniqueId packet.uniqueId ||
      (packet.entityType = AddEntity.fallingBlock &&
        mapping.changesFallingBlock direction packet.metadata)
  | .addItemEntity packet =>
    mapping.changesRuntimeId packet.runtimeId || mapping.changesUniqueId packet.uniqueId ||
      mapping.changesItem direction packet.item
  | .removeEntity packet => mapping.changesUniqueId packet.uniqueId
  | .moveEntityAbsolute packet => mapping.changesRuntimeId packet.runtimeId
  | .movePlayer packet =>
    mapping.changesRuntimeId packet.runtimeId || mapping.changesRuntimeId packet.ridingRuntimeId
  | .entityEvent packet => mapping.changesRuntimeId packet.runtimeId
  | .playerAction packet => mapping.changesRuntimeId packet.runtimeId
  | .setEntityData packet => mapping.changesRuntimeId packet.runtimeId
  | .setEntityMotion packet => mapping.changesRuntimeId packet.runtimeId
  | .setEntityLink packet =>
    mapping.changesUniqueId packet.fromId || mapping.changesUniqueId packet.toId
  | .setLocalPlayerAsInitialized packet => mapping.changesRuntimeId packet.runtimeId
  | .mobEquipment packet =>
    mapping.changesRuntimeId packet.runtimeId || mapping.changesItem direction packet.item
  | .inventoryContent packet => packet.items.any (mapping.changesItem direction)
  | .inventorySlot packet => mapping.changesItem direction packet.item
  | .updateBlock packet => mapping.block direction packet.blockId ≠ packet.blockId
  | .levelEvent packet => mapping.changesEventData direction packet.event packet.data
  | .levelSoundEvent packet =>
    packet.carriesBlock && mapping.changesSignedBlock direction packet.extraData
  | .levelChunk packet =>
    match direction with
    | .clientbound => mapping.changesLevelChunk packet
    | .serverbound => false
  | .subChunk packet =>
    match direction with
    | .clientbound => mapping.changesSubChunk packet
    | .serverbound => false
  | _ => false

/-- The packet on the other side, if it counts as changed. -/
def carry? (mapping : Mapping) (direction : Direction) (packet : Packet) : Option Packet :=
  if mapping.changes direction packet then some (mapping.packet direction packet) else none

/-! ## Which packets to look at -/

/-- The packets that carry entity ids and nothing else of interest. -/
def withIds : Direction → List PacketId
  | .clientbound => [PacketId.startGame, PacketId.removeEntity, PacketId.moveEntityAbsolute,
      PacketId.movePlayer, PacketId.entityEvent, PacketId.setEntityData,
      PacketId.setEntityMotion, PacketId.setEntityLink]
  | .serverbound => [PacketId.movePlayer, PacketId.moveEntityAbsolute, PacketId.playerAction,
      PacketId.entityEvent, PacketId.setLocalPlayerAsInitialized]

/-- The packets that carry blocks and nothing else of interest. -/
def withBlocks : Direction → List PacketId
  | .clientbound => [PacketId.updateBlock, PacketId.levelEvent, PacketId.levelSoundEvent,
      PacketId.levelChunk, PacketId.subChunk]
  | .serverbound => [PacketId.levelSoundEvent]

/-- The packets that carry items, and with them blocks. -/
def withItems : Direction → List PacketId
  | .clientbound => [PacketId.inventoryContent, PacketId.inventorySlot]
  | .serverbound => []

/-- The packets that carry entity ids beside items or blocks. -/
def withAll : Direction → List PacketId
  | .clientbound => [PacketId.addPlayer, PacketId.addEntity, PacketId.addItemEntity,
      PacketId.mobEquipment]
  | .serverbound => [PacketId.mobEquipment]

/-- Whether the player has different ids on the two sides. -/
def swapsIds (mapping : Mapping) : Bool := mapping.client ≠ mapping.backend

/-- Whether packets of a kind may change on the way to the other side. -/
def concerns (mapping : Mapping) (direction : Direction) (id : PacketId) : Bool :=
  let blocks := !mapping.blocks.isIdentity
  let items := !mapping.items.isIdentity
  (mapping.swapsIds && (withIds direction).contains id) ||
    (blocks && (withBlocks direction).contains id) ||
    ((items || blocks) && (withItems direction).contains id) ||
    ((mapping.swapsIds || items || blocks) && (withAll direction).contains id)

end Mapping

end Ferry
