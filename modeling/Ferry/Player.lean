import Ferry.Scene
import Ferry.Transfer.Basic

/-!
# Players

All that the proxy keeps about a player's game: how the client's numbers correspond to the
backend's, where the player is, what the client shows, and the transfer in progress, if
there is one.
-/

namespace Ferry

/-- What the proxy keeps about a player's game. -/
structure Player where
  mapping : Mapping
  /-- The dimension that the client is in. -/
  dimension : Int32
  /-- Where the current backend has spawned the player. -/
  spawnPosition : Vector
  spawnRotation : Rotation
  /-- How far the client may see, in chunks. -/
  chunkRadius : Int32
  scene : Scene
  transfer : Option Transfer

namespace Player

/-- How far a client may see before that is negotiated. -/
def defaultChunkRadius : Int32 := 8

/-- A player who is not on a backend yet, with ids that may be laid down beforehand. -/
def start (clientIds : Option PlayerIds) : Player where
  mapping := Mapping.start clientIds
  dimension := 0
  spawnPosition := Vector.zero
  spawnRotation := Rotation.zero
  chunkRadius := defaultChunkRadius
  scene := Scene.empty
  transfer := none

/-- The player on a server that has just spawned it. -/
def adopt (player : Player) (packet : StartGame) (server : Server) : Player :=
  { player with
    mapping := player.mapping.adopt ⟨packet.runtimeId, packet.uniqueId⟩ server.blocks server.items
    spawnPosition := packet.position
    spawnRotation := packet.rotation }

/-- Whether the client is on its way into a temporary dimension. -/
def isLocked (player : Player) : Bool := player.transfer.any Transfer.isLocked

/-! ## The packets of a transfer -/

/-- What the client is sent when a transfer starts, after all that the old backend has
shown was taken from it. -/
def departurePackets (player : Player) (transfer : Transfer) : List Packet :=
  Dimension.change transfer.temporaryDimension player.spawnPosition player.chunkRadius ++
    [.stopSound StopSound.all]

/-- What the client is sent when it has left the old backend: its player is put where the
new backend has spawned it, and the client goes on into that backend's dimension, unless it
is there already. -/
def arrivalPackets (player : Player) (transfer : Transfer) : List Packet :=
  let runtimeId := player.mapping.client.runtimeId
  let change :=
    if transfer.targetDimension = transfer.temporaryDimension then []
    else Dimension.change transfer.targetDimension player.spawnPosition player.chunkRadius
  [.setEntityData (SetEntityData.immobile runtimeId),
    .movePlayer (MovePlayer.teleport runtimeId player.spawnPosition player.spawnRotation)] ++
    change ++ [.stopSound StopSound.all]

/-- What the client is sent when it has arrived. -/
def completionPackets : List Packet := [.stopSound StopSound.all]

/-- What the new backend is sent when the client has arrived. It names the player by the id
that this backend gave it. -/
def initializedPacket (player : Player) : Packet :=
  .setLocalPlayerAsInitialized ⟨player.mapping.backend.runtimeId⟩

end Player

end Ferry
