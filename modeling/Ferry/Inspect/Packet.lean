import Ferry.Inspect.View

/-!
# Packets as documents

A packet is shown as its fields beside the name of its kind. A packet in a batch is
shown raw: the number of its kind, its body and, where they are not both 0, the two
sub-clients of its header.
-/

namespace Ferry

/-- The fields of a packet. -/
def Packet.members : Packet → List (String × Json)
  | .login packet =>
    [("protocol_version", view packet.protocolVersion),
      ("connection_request", view packet.connectionRequest)]
  | .playStatus packet => [("status", view packet.status)]
  | .disconnect packet =>
    [("reason", view packet.reason), ("hide_disconnect_screen", view packet.hideScreen),
      ("message", view packet.message), ("filtered_message", view packet.filteredMessage)]
  | .resourcePacksInfo packet => [("body", view packet.body)]
  | .resourcePackStack packet => [("body", view packet.body)]
  | .resourcePackClientResponse packet =>
    [("status", view packet.status), ("pack_ids", view packet.packIds)]
  | .startGame packet =>
    [("unique_entity_id", view packet.uniqueId), ("runtime_entity_id", view packet.runtimeId),
      ("player_gamemode", view packet.gamemode), ("position", view packet.position),
      ("rotation", view packet.rotation), ("seed", view packet.seed),
      ("spawn_biome_type", view packet.spawnBiomeType),
      ("custom_biome_name", view packet.customBiomeName), ("dimension", view packet.dimension),
      ("rest", view packet.rest)]
  | .addPlayer packet =>
    [("uuid", view packet.uuid), ("username", view packet.username),
      ("runtime_entity_id", view packet.runtimeId),
      ("platform_chat_id", view packet.platformChatId), ("position", view packet.position),
      ("velocity", view packet.velocity), ("pitch", view packet.pitch),
      ("yaw", view packet.yaw), ("head_yaw", view packet.headYaw),
      ("held_item", view packet.heldItem), ("gamemode", view packet.gamemode),
      ("metadata", view packet.metadata), ("properties", view packet.properties),
      ("unique_entity_id", view packet.uniqueId), ("rest", view packet.rest)]
  | .addEntity packet =>
    [("unique_entity_id", view packet.uniqueId), ("runtime_entity_id", view packet.runtimeId),
      ("entity_type", view packet.entityType), ("position", view packet.position),
      ("velocity", view packet.velocity), ("pitch", view packet.pitch),
      ("yaw", view packet.yaw), ("head_yaw", view packet.headYaw),
      ("body_yaw", view packet.bodyYaw), ("attributes", view packet.attributes),
      ("metadata", view packet.metadata), ("rest", view packet.rest)]
  | .removeEntity packet => [("unique_entity_id", view packet.uniqueId)]
  | .addItemEntity packet =>
    [("unique_entity_id", view packet.uniqueId), ("runtime_entity_id", view packet.runtimeId),
      ("item", view packet.item), ("rest", view packet.rest)]
  | .moveEntityAbsolute packet =>
    [("runtime_entity_id", view packet.runtimeId), ("rest", view packet.rest)]
  | .movePlayer packet =>
    [("runtime_entity_id", view packet.runtimeId), ("position", view packet.position),
      ("pitch", view packet.pitch), ("yaw", view packet.yaw), ("head_yaw", view packet.headYaw),
      ("mode", view packet.mode), ("on_ground", view packet.onGround),
      ("riding_runtime_entity_id", view packet.ridingRuntimeId), ("rest", view packet.rest)]
  | .updateBlock packet =>
    [("position", view packet.position), ("block_runtime_id", view packet.blockId),
      ("flags", view packet.flags), ("layer", view packet.layer)]
  | .levelEvent packet =>
    [("event", view packet.event), ("position", view packet.position),
      ("data", view packet.data)]
  | .entityEvent packet =>
    [("runtime_entity_id", view packet.runtimeId), ("event", view packet.event),
      ("data", view packet.data)]
  | .mobEquipment packet =>
    [("runtime_entity_id", view packet.runtimeId), ("item", view packet.item),
      ("inventory_slot", view packet.inventorySlot), ("hotbar_slot", view packet.hotbarSlot),
      ("window_id", view packet.windowId)]
  | .playerAction packet =>
    [("runtime_entity_id", view packet.runtimeId), ("action", view packet.action),
      ("rest", view packet.rest)]
  | .setEntityData packet =>
    [("runtime_entity_id", view packet.runtimeId), ("metadata", view packet.metadata),
      ("rest", view packet.rest)]
  | .setEntityMotion packet =>
    [("runtime_entity_id", view packet.runtimeId), ("motion", view packet.motion),
      ("rest", view packet.rest)]
  | .setEntityLink packet =>
    [("from_unique_entity_id", view packet.fromId), ("to_unique_entity_id", view packet.toId),
      ("link_type", view packet.linkType), ("immediate", view packet.immediate),
      ("rider_initiated", view packet.riderInitiated), ("rest", view packet.rest)]
  | .inventoryContent packet =>
    [("window_id", view packet.windowId), ("items", view packet.items),
      ("rest", view packet.rest)]
  | .inventorySlot packet =>
    [("window_id", view packet.windowId), ("slot", view packet.slot),
      ("container_name", view packet.containerName),
      ("dynamic_container_size", view packet.dynamicContainerSize), ("item", view packet.item)]
  | .levelChunk packet =>
    [("chunk_x", view packet.chunkX), ("chunk_z", view packet.chunkZ),
      ("dimension", view packet.dimension), ("sub_chunk_count", view packet.subChunkCount),
      ("highest_sub_chunk", view packet.highestSubChunk), ("blob_ids", view packet.blobIds),
      ("data", view packet.data)]
  | .changeDimension packet =>
    [("dimension", view packet.dimension), ("position", view packet.position),
      ("respawn", view packet.respawn), ("loading_screen_id", view packet.loadingScreenId)]
  | .playerList packet => packet.members
  | .requestChunkRadius packet =>
    [("radius", view packet.radius), ("max_radius", view packet.maxRadius)]
  | .chunkRadiusUpdated packet => [("radius", view packet.radius)]
  | .stopSound packet =>
    [("sound_name", view packet.soundName), ("stop_all", view packet.stopAll),
      ("stop_music_legacy", view packet.stopMusic)]
  | .setLocalPlayerAsInitialized packet => [("runtime_entity_id", view packet.runtimeId)]
  | .networkChunkPublisherUpdate packet =>
    [("position", view packet.position), ("radius", view packet.radius),
      ("saved_chunks", view packet.savedChunks)]
  | .levelSoundEvent packet =>
    [("sound", view packet.sound), ("position", view packet.position),
      ("extra_data", view packet.extraData), ("rest", view packet.rest)]
  | .levelEventGeneric packet => [("event", view packet.event), ("data", view packet.data)]
  | .networkSettings packet =>
    [("compression_threshold", view packet.compressionThreshold),
      ("compression_algorithm", view packet.compressionAlgorithm),
      ("client_throttle", view packet.clientThrottle),
      ("client_throttle_threshold", view packet.clientThrottleThreshold),
      ("client_throttle_scalar", view packet.clientThrottleScalar)]
  | .subChunk packet =>
    [("cache_enabled", view packet.cacheEnabled), ("dimension", view packet.dimension),
      ("position", view [packet.center.x, packet.center.y, packet.center.z]),
      ("entries", view packet.entries)]
  | .requestNetworkSettings packet => [("protocol_version", view packet.protocolVersion)]
  | .unknown id body => [("packet_id", view id), ("body", view body)]

/-- Reads the fields of a packet of a named kind. -/
def Packet.ofMembers? (kind : String) (document : Json) : Option Packet :=
  match kind with
  | "Login" => do
    some (.login ⟨← document.get? "protocol_version", ← document.get? "connection_request"⟩)
  | "PlayStatus" => do some (.playStatus ⟨← document.get? "status"⟩)
  | "Disconnect" => do
    some (.disconnect ⟨← document.get? "reason", ← document.get? "hide_disconnect_screen",
      ← document.get? "message", ← document.get? "filtered_message"⟩)
  | "ResourcePacksInfo" => do some (.resourcePacksInfo ⟨← document.get? "body"⟩)
  | "ResourcePackStack" => do some (.resourcePackStack ⟨← document.get? "body"⟩)
  | "ResourcePackClientResponse" => do
    some (.resourcePackClientResponse ⟨← document.get? "status", ← document.get? "pack_ids"⟩)
  | "StartGame" => do
    some (.startGame ⟨← document.get? "unique_entity_id", ← document.get? "runtime_entity_id",
      ← document.get? "player_gamemode", ← document.get? "position", ← document.get? "rotation",
      ← document.get? "seed", ← document.get? "spawn_biome_type",
      ← document.get? "custom_biome_name", ← document.get? "dimension", ← document.get? "rest"⟩)
  | "AddPlayer" => do
    some (.addPlayer ⟨← document.get? "uuid", ← document.get? "username",
      ← document.get? "runtime_entity_id", ← document.get? "platform_chat_id",
      ← document.get? "position", ← document.get? "velocity", ← document.get? "pitch",
      ← document.get? "yaw", ← document.get? "head_yaw", ← document.get? "held_item",
      ← document.get? "gamemode", ← document.get? "metadata", ← document.get? "properties",
      ← document.get? "unique_entity_id", ← document.get? "rest"⟩)
  | "AddEntity" => do
    some (.addEntity ⟨← document.get? "unique_entity_id", ← document.get? "runtime_entity_id",
      ← document.get? "entity_type", ← document.get? "position", ← document.get? "velocity",
      ← document.get? "pitch", ← document.get? "yaw", ← document.get? "head_yaw",
      ← document.get? "body_yaw", ← document.get? "attributes", ← document.get? "metadata",
      ← document.get? "rest"⟩)
  | "RemoveEntity" => do some (.removeEntity ⟨← document.get? "unique_entity_id"⟩)
  | "AddItemEntity" => do
    some (.addItemEntity ⟨← document.get? "unique_entity_id", ← document.get? "runtime_entity_id",
      ← document.get? "item", ← document.get? "rest"⟩)
  | "MoveEntityAbsolute" => do
    some (.moveEntityAbsolute ⟨← document.get? "runtime_entity_id", ← document.get? "rest"⟩)
  | "MovePlayer" => do
    some (.movePlayer ⟨← document.get? "runtime_entity_id", ← document.get? "position",
      ← document.get? "pitch", ← document.get? "yaw", ← document.get? "head_yaw",
      ← document.get? "mode", ← document.get? "on_ground",
      ← document.get? "riding_runtime_entity_id", ← document.get? "rest"⟩)
  | "UpdateBlock" => do
    some (.updateBlock ⟨← document.get? "position", ← document.get? "block_runtime_id",
      ← document.get? "flags", ← document.get? "layer"⟩)
  | "LevelEvent" => do
    some (.levelEvent ⟨← document.get? "event", ← document.get? "position",
      ← document.get? "data"⟩)
  | "EntityEvent" => do
    some (.entityEvent ⟨← document.get? "runtime_entity_id", ← document.get? "event",
      ← document.get? "data"⟩)
  | "MobEquipment" => do
    some (.mobEquipment ⟨← document.get? "runtime_entity_id", ← document.get? "item",
      ← document.get? "inventory_slot", ← document.get? "hotbar_slot",
      ← document.get? "window_id"⟩)
  | "PlayerAction" => do
    some (.playerAction ⟨← document.get? "runtime_entity_id", ← document.get? "action",
      ← document.get? "rest"⟩)
  | "SetEntityData" => do
    some (.setEntityData ⟨← document.get? "runtime_entity_id", ← document.get? "metadata",
      ← document.get? "rest"⟩)
  | "SetEntityMotion" => do
    some (.setEntityMotion ⟨← document.get? "runtime_entity_id", ← document.get? "motion",
      ← document.get? "rest"⟩)
  | "SetEntityLink" => do
    some (.setEntityLink ⟨← document.get? "from_unique_entity_id",
      ← document.get? "to_unique_entity_id", ← document.get? "link_type",
      ← document.get? "immediate", ← document.get? "rider_initiated", ← document.get? "rest"⟩)
  | "InventoryContent" => do
    some (.inventoryContent ⟨← document.get? "window_id", ← document.get? "items",
      ← document.get? "rest"⟩)
  | "InventorySlot" => do
    some (.inventorySlot ⟨← document.get? "window_id", ← document.get? "slot",
      ← document.get? "container_name", ← document.get? "dynamic_container_size",
      ← document.get? "item"⟩)
  | "LevelChunk" => do
    some (.levelChunk ⟨← document.get? "chunk_x", ← document.get? "chunk_z",
      ← document.get? "dimension", ← document.get? "sub_chunk_count",
      ← document.get? "highest_sub_chunk", ← document.get? "blob_ids", ← document.get? "data"⟩)
  | "ChangeDimension" => do
    some (.changeDimension ⟨← document.get? "dimension", ← document.get? "position",
      ← document.get? "respawn", ← document.get? "loading_screen_id"⟩)
  | "PlayerList" => Packet.playerList <$> document.as?
  | "RequestChunkRadius" => do
    some (.requestChunkRadius ⟨← document.get? "radius", ← document.get? "max_radius"⟩)
  | "ChunkRadiusUpdated" => do some (.chunkRadiusUpdated ⟨← document.get? "radius"⟩)
  | "StopSound" => do
    some (.stopSound ⟨← document.get? "sound_name", ← document.get? "stop_all",
      ← document.get? "stop_music_legacy"⟩)
  | "SetLocalPlayerAsInitialized" => do
    some (.setLocalPlayerAsInitialized ⟨← document.get? "runtime_entity_id"⟩)
  | "NetworkChunkPublisherUpdate" => do
    some (.networkChunkPublisherUpdate ⟨← document.get? "position", ← document.get? "radius",
      ← document.get? "saved_chunks"⟩)
  | "LevelSoundEvent" => do
    some (.levelSoundEvent ⟨← document.get? "sound", ← document.get? "position",
      ← document.get? "extra_data", ← document.get? "rest"⟩)
  | "LevelEventGeneric" => do
    some (.levelEventGeneric ⟨← document.get? "event", ← document.get? "data"⟩)
  | "NetworkSettings" => do
    some (.networkSettings ⟨← document.get? "compression_threshold",
      ← document.get? "compression_algorithm", ← document.get? "client_throttle",
      ← document.get? "client_throttle_threshold", ← document.get? "client_throttle_scalar"⟩)
  | "SubChunk" => do
    let center : Json ← document.get? "position"
    some (.subChunk ⟨← document.get? "cache_enabled", ← document.get? "dimension",
      ⟨← center.at? 0, ← center.at? 1, ← center.at? 2⟩, ← document.get? "entries"⟩)
  | "RequestNetworkSettings" => do
    some (.requestNetworkSettings ⟨← document.get? "protocol_version"⟩)
  | "Unknown" => do some (.unknown (← document.get? "packet_id") (← document.get? "body"))
  | _ => none

instance : View Packet where
  toDocument packet := record (("type", view packet.name) :: packet.members)
  ofDocument? document := do
    let kind : String ← document.get? "type"
    Packet.ofMembers? kind document

/-- A packet as it lies in a batch. -/
structure RawPacket where
  header : Header
  body : Bytes
  deriving DecidableEq, Repr, Inhabited

instance : View RawPacket where
  toDocument packet :=
    let front := [view packet.header.id, view packet.body]
    if packet.header.sender = 0 && packet.header.target = 0 then .array front
    else .array (front ++ [view packet.header.sender, view packet.header.target])
  ofDocument? document := do
    let elements ← document.elements?
    let id ← document.at? 0
    let body ← document.at? 1
    if elements.length ≤ 2 then some ⟨Header.ofId id, body⟩
    else some ⟨⟨id, ← document.at? 2, ← document.at? 3⟩, body⟩

/-- The short name of a decode error's kind. -/
def DecodeError.kind : DecodeError → String
  | .endOfStream _ _ => "EndOfStream"
  | .invalidBool _ => "InvalidBool"
  | .varintTooLong => "VarIntTooLong"
  | .arrayTooLong _ => "ArrayTooLong"
  | .trailingBytes _ => "TrailingBytes"
  | .invalidText _ => "Utf8"
  | .negativeTagLength _ | .tagNestingTooDeep | .unknownTagType _ | .invalidDiscriminant _ =>
    "Other"

/-- An error as a document. -/
def failure (kind message : String) : Json :=
  record [("error", view kind), ("message", view message)]

instance : View DecodeError where
  toDocument fault := failure fault.kind fault.message
  ofDocument? _ := none

/-- A result, or the error in its place. -/
def viewResult {ε α : Type} [View ε] (encode : α → Json) : Except ε α → Json
  | .ok value => encode value
  | .error fault => view fault

end Ferry
