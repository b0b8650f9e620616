import Ferry.Packet.Container
import Ferry.Packet.Effect
import Ferry.Packet.Entity
import Ferry.Packet.Login
import Ferry.Packet.Player
import Ferry.Packet.Terrain

/-!
# Packets

The packets that the proxy looks into, by the number in their header; every other
packet is kept as the bytes of its body. `Packet.decode` and `Packet.body` are the
two directions of one version's layouts.
-/

namespace Ferry

/-- The number of a kind of packet. -/
abbrev PacketId := UInt32

namespace PacketId

def login : PacketId := 0x01
def playStatus : PacketId := 0x02
def disconnect : PacketId := 0x05
def resourcePacksInfo : PacketId := 0x06
def resourcePackStack : PacketId := 0x07
def resourcePackClientResponse : PacketId := 0x08
def startGame : PacketId := 0x0b
def addPlayer : PacketId := 0x0c
def addEntity : PacketId := 0x0d
def removeEntity : PacketId := 0x0e
def addItemEntity : PacketId := 0x0f
def moveEntityAbsolute : PacketId := 0x12
def movePlayer : PacketId := 0x13
def updateBlock : PacketId := 0x15
def levelEvent : PacketId := 0x19
def entityEvent : PacketId := 0x1b
def mobEquipment : PacketId := 0x1f
def playerAction : PacketId := 0x24
def setEntityData : PacketId := 0x27
def setEntityMotion : PacketId := 0x28
def setEntityLink : PacketId := 0x29
def inventoryContent : PacketId := 0x31
def inventorySlot : PacketId := 0x32
def levelChunk : PacketId := 0x3a
def changeDimension : PacketId := 0x3d
def playerList : PacketId := 0x3f
def requestChunkRadius : PacketId := 0x45
def chunkRadiusUpdated : PacketId := 0x46
def stopSound : PacketId := 0x57
def setLocalPlayerAsInitialized : PacketId := 0x71
def networkChunkPublisherUpdate : PacketId := 0x79
def levelSoundEvent : PacketId := 0x7b
def levelEventGeneric : PacketId := 0x7c
def networkSettings : PacketId := 0x8f
def subChunk : PacketId := 0xae
def requestNetworkSettings : PacketId := 0xc1

end PacketId

/-- A packet, as far as it is looked into. -/
inductive Packet where
  | login (packet : Login)
  | playStatus (packet : PlayStatus)
  | disconnect (packet : Disconnect)
  | resourcePacksInfo (packet : ResourcePacksInfo)
  | resourcePackStack (packet : ResourcePackStack)
  | resourcePackClientResponse (packet : ResourcePackClientResponse)
  | startGame (packet : StartGame)
  | addPlayer (packet : AddPlayer)
  | addEntity (packet : AddEntity)
  | removeEntity (packet : RemoveEntity)
  | addItemEntity (packet : AddItemEntity)
  | moveEntityAbsolute (packet : MoveEntityAbsolute)
  | movePlayer (packet : MovePlayer)
  | updateBlock (packet : UpdateBlock)
  | levelEvent (packet : LevelEvent)
  | entityEvent (packet : EntityEvent)
  | mobEquipment (packet : MobEquipment)
  | playerAction (packet : PlayerAction)
  | setEntityData (packet : SetEntityData)
  | setEntityMotion (packet : SetEntityMotion)
  | setEntityLink (packet : SetEntityLink)
  | inventoryContent (packet : InventoryContent)
  | inventorySlot (packet : InventorySlot)
  | levelChunk (packet : LevelChunk)
  | changeDimension (packet : ChangeDimension)
  | playerList (packet : PlayerList)
  | requestChunkRadius (packet : RequestChunkRadius)
  | chunkRadiusUpdated (packet : ChunkRadiusUpdated)
  | stopSound (packet : StopSound)
  | setLocalPlayerAsInitialized (packet : SetLocalPlayerAsInitialized)
  | networkChunkPublisherUpdate (packet : NetworkChunkPublisherUpdate)
  | levelSoundEvent (packet : LevelSoundEvent)
  | levelEventGeneric (packet : LevelEventGeneric)
  | networkSettings (packet : NetworkSettings)
  | subChunk (packet : SubChunk)
  | requestNetworkSettings (packet : RequestNetworkSettings)
  | unknown (id : PacketId) (body : Bytes)
  deriving DecidableEq, Repr

namespace Packet

/-- The number that the header of a packet carries. -/
def id : Packet → PacketId
  | .login _ => PacketId.login
  | .playStatus _ => PacketId.playStatus
  | .disconnect _ => PacketId.disconnect
  | .resourcePacksInfo _ => PacketId.resourcePacksInfo
  | .resourcePackStack _ => PacketId.resourcePackStack
  | .resourcePackClientResponse _ => PacketId.resourcePackClientResponse
  | .startGame _ => PacketId.startGame
  | .addPlayer _ => PacketId.addPlayer
  | .addEntity _ => PacketId.addEntity
  | .removeEntity _ => PacketId.removeEntity
  | .addItemEntity _ => PacketId.addItemEntity
  | .moveEntityAbsolute _ => PacketId.moveEntityAbsolute
  | .movePlayer _ => PacketId.movePlayer
  | .updateBlock _ => PacketId.updateBlock
  | .levelEvent _ => PacketId.levelEvent
  | .entityEvent _ => PacketId.entityEvent
  | .mobEquipment _ => PacketId.mobEquipment
  | .playerAction _ => PacketId.playerAction
  | .setEntityData _ => PacketId.setEntityData
  | .setEntityMotion _ => PacketId.setEntityMotion
  | .setEntityLink _ => PacketId.setEntityLink
  | .inventoryContent _ => PacketId.inventoryContent
  | .inventorySlot _ => PacketId.inventorySlot
  | .levelChunk _ => PacketId.levelChunk
  | .changeDimension _ => PacketId.changeDimension
  | .playerList _ => PacketId.playerList
  | .requestChunkRadius _ => PacketId.requestChunkRadius
  | .chunkRadiusUpdated _ => PacketId.chunkRadiusUpdated
  | .stopSound _ => PacketId.stopSound
  | .setLocalPlayerAsInitialized _ => PacketId.setLocalPlayerAsInitialized
  | .networkChunkPublisherUpdate _ => PacketId.networkChunkPublisherUpdate
  | .levelSoundEvent _ => PacketId.levelSoundEvent
  | .levelEventGeneric _ => PacketId.levelEventGeneric
  | .networkSettings _ => PacketId.networkSettings
  | .subChunk _ => PacketId.subChunk
  | .requestNetworkSettings _ => PacketId.requestNetworkSettings
  | .unknown id _ => id

/-- What a kind of packet is called. -/
def name : Packet → String
  | .login _ => "Login"
  | .playStatus _ => "PlayStatus"
  | .disconnect _ => "Disconnect"
  | .resourcePacksInfo _ => "ResourcePacksInfo"
  | .resourcePackStack _ => "ResourcePackStack"
  | .resourcePackClientResponse _ => "ResourcePackClientResponse"
  | .startGame _ => "StartGame"
  | .addPlayer _ => "AddPlayer"
  | .addEntity _ => "AddEntity"
  | .removeEntity _ => "RemoveEntity"
  | .addItemEntity _ => "AddItemEntity"
  | .moveEntityAbsolute _ => "MoveEntityAbsolute"
  | .movePlayer _ => "MovePlayer"
  | .updateBlock _ => "UpdateBlock"
  | .levelEvent _ => "LevelEvent"
  | .entityEvent _ => "EntityEvent"
  | .mobEquipment _ => "MobEquipment"
  | .playerAction _ => "PlayerAction"
  | .setEntityData _ => "SetEntityData"
  | .setEntityMotion _ => "SetEntityMotion"
  | .setEntityLink _ => "SetEntityLink"
  | .inventoryContent _ => "InventoryContent"
  | .inventorySlot _ => "InventorySlot"
  | .levelChunk _ => "LevelChunk"
  | .changeDimension _ => "ChangeDimension"
  | .playerList _ => "PlayerList"
  | .requestChunkRadius _ => "RequestChunkRadius"
  | .chunkRadiusUpdated _ => "ChunkRadiusUpdated"
  | .stopSound _ => "StopSound"
  | .setLocalPlayerAsInitialized _ => "SetLocalPlayerAsInitialized"
  | .networkChunkPublisherUpdate _ => "NetworkChunkPublisherUpdate"
  | .levelSoundEvent _ => "LevelSoundEvent"
  | .levelEventGeneric _ => "LevelEventGeneric"
  | .networkSettings _ => "NetworkSettings"
  | .subChunk _ => "SubChunk"
  | .requestNetworkSettings _ => "RequestNetworkSettings"
  | .unknown _ _ => "Unknown"

/-- Reads the fields of a packet of one kind. -/
def reader (version : Version) (id : PacketId) : Reader Packet :=
  match id with
  | 0x01 => login <$> Login.layout.read
  | 0x02 => playStatus <$> PlayStatus.layout.read
  | 0x05 => disconnect <$> (Disconnect.layout version).read
  | 0x06 => resourcePacksInfo <$> ResourcePacksInfo.layout.read
  | 0x07 => resourcePackStack <$> ResourcePackStack.layout.read
  | 0x08 => resourcePackClientResponse <$> ResourcePackClientResponse.layout.read
  | 0x0b => startGame <$> StartGame.layout.read
  | 0x0c => addPlayer <$> AddPlayer.layout.read
  | 0x0d => addEntity <$> AddEntity.layout.read
  | 0x0e => removeEntity <$> RemoveEntity.layout.read
  | 0x0f => addItemEntity <$> AddItemEntity.layout.read
  | 0x12 => moveEntityAbsolute <$> MoveEntityAbsolute.layout.read
  | 0x13 => movePlayer <$> MovePlayer.layout.read
  | 0x15 => updateBlock <$> UpdateBlock.layout.read
  | 0x19 => levelEvent <$> LevelEvent.layout.read
  | 0x1b => entityEvent <$> EntityEvent.layout.read
  | 0x1f => mobEquipment <$> MobEquipment.layout.read
  | 0x24 => playerAction <$> PlayerAction.layout.read
  | 0x27 => setEntityData <$> SetEntityData.layout.read
  | 0x28 => setEntityMotion <$> SetEntityMotion.layout.read
  | 0x29 => setEntityLink <$> SetEntityLink.layout.read
  | 0x31 => inventoryContent <$> InventoryContent.layout.read
  | 0x32 => inventorySlot <$> (InventorySlot.layout version).read
  | 0x3a => levelChunk <$> (LevelChunk.layout version).read
  | 0x3d => changeDimension <$> (ChangeDimension.layout version).read
  | 0x3f => playerList <$> PlayerList.layout.read
  | 0x45 => requestChunkRadius <$> RequestChunkRadius.layout.read
  | 0x46 => chunkRadiusUpdated <$> ChunkRadiusUpdated.layout.read
  | 0x57 => stopSound <$> (StopSound.layout version).read
  | 0x71 => setLocalPlayerAsInitialized <$> SetLocalPlayerAsInitialized.layout.read
  | 0x79 => networkChunkPublisherUpdate <$> NetworkChunkPublisherUpdate.layout.read
  | 0x7b => levelSoundEvent <$> LevelSoundEvent.layout.read
  | 0x7c => levelEventGeneric <$> LevelEventGeneric.layout.read
  | 0x8f => networkSettings <$> NetworkSettings.layout.read
  | 0xae => subChunk <$> SubChunk.layout.read
  | 0xc1 => requestNetworkSettings <$> RequestNetworkSettings.layout.read
  | other => unknown other <$> Reader.rest

/-- Writes the fields of a packet. -/
def body (version : Version) : Packet → Bytes
  | .login packet => Login.layout.write packet
  | .playStatus packet => PlayStatus.layout.write packet
  | .disconnect packet => (Disconnect.layout version).write packet
  | .resourcePacksInfo packet => ResourcePacksInfo.layout.write packet
  | .resourcePackStack packet => ResourcePackStack.layout.write packet
  | .resourcePackClientResponse packet => ResourcePackClientResponse.layout.write packet
  | .startGame packet => StartGame.layout.write packet
  | .addPlayer packet => AddPlayer.layout.write packet
  | .addEntity packet => AddEntity.layout.write packet
  | .removeEntity packet => RemoveEntity.layout.write packet
  | .addItemEntity packet => AddItemEntity.layout.write packet
  | .moveEntityAbsolute packet => MoveEntityAbsolute.layout.write packet
  | .movePlayer packet => MovePlayer.layout.write packet
  | .updateBlock packet => UpdateBlock.layout.write packet
  | .levelEvent packet => LevelEvent.layout.write packet
  | .entityEvent packet => EntityEvent.layout.write packet
  | .mobEquipment packet => MobEquipment.layout.write packet
  | .playerAction packet => PlayerAction.layout.write packet
  | .setEntityData packet => SetEntityData.layout.write packet
  | .setEntityMotion packet => SetEntityMotion.layout.write packet
  | .setEntityLink packet => SetEntityLink.layout.write packet
  | .inventoryContent packet => InventoryContent.layout.write packet
  | .inventorySlot packet => (InventorySlot.layout version).write packet
  | .levelChunk packet => (LevelChunk.layout version).write packet
  | .changeDimension packet => (ChangeDimension.layout version).write packet
  | .playerList packet => PlayerList.layout.write packet
  | .requestChunkRadius packet => RequestChunkRadius.layout.write packet
  | .chunkRadiusUpdated packet => ChunkRadiusUpdated.layout.write packet
  | .stopSound packet => (StopSound.layout version).write packet
  | .setLocalPlayerAsInitialized packet => SetLocalPlayerAsInitialized.layout.write packet
  | .networkChunkPublisherUpdate packet => NetworkChunkPublisherUpdate.layout.write packet
  | .levelSoundEvent packet => LevelSoundEvent.layout.write packet
  | .levelEventGeneric packet => LevelEventGeneric.layout.write packet
  | .networkSettings packet => NetworkSettings.layout.write packet
  | .subChunk packet => SubChunk.layout.write packet
  | .requestNetworkSettings packet => RequestNetworkSettings.layout.write packet
  | .unknown _ body => body

/-- Reads a whole body as a packet of one kind. -/
def decode (version : Version) (id : PacketId) (body : Bytes) : Except DecodeError Packet :=
  (Reader.whole (reader version id)).valueOf body

end Packet

end Ferry
