import Ferry.Handler.Basic

/-!
# Packets from the backend that the player is moving to

Until the backend spawns the player it is still logging it in: its resource packs are
acknowledged here, and none of its packets reaches the client. Spawning the player starts
the transfer, and from then on its packets are let through, to wait for the client.
-/

namespace Ferry

/-- What is known about the backend that a player is moving to. -/
structure Arrival where
  source : Option Server
  target : Server
  limits : WaitingLimits
  /-- Whether the backend has spawned the player. -/
  started : Bool

namespace Arrival

/-- A backend that has not spawned the player yet. -/
def start (source : Option Server) (target : Server) (limits : WaitingLimits) : Arrival :=
  ⟨source, target, limits, false⟩

/-- Why a backend refuses a player with a status. -/
def refusal (status : Int32) : String :=
  if status = PlayStatus.outdatedClient then "outdated client"
  else if status = PlayStatus.outdatedServer then "outdated server"
  else s!"login failed with status {status.toInt}"

/-- Asks a new backend for the radius that the client has. -/
def radiusRequest (player : Player) : Packet :=
  let radius := player.chunkRadius
  .requestChunkRadius ⟨radius, UInt8.ofInt (max 0 (min radius.toInt 255))⟩

/-- The player once the new backend has spawned it: a transfer is in progress, and nothing
of the old backend counts as shown. -/
def spawn (arrival : Arrival) (player : Player) (packet : StartGame) : Player :=
  { player.adopt packet arrival.target with
    transfer := some (Transfer.start arrival.source arrival.target player.dimension
      packet.dimension arrival.limits)
    scene := player.scene.takeDown.2 }

/-- Handles a packet of a backend that is still logging the player in. -/
def handleLogin (arrival : Arrival) (player : Player) (packet : Packet) : Handled Arrival :=
  let canceled : Handled Arrival := ⟨.cancel, packet, arrival, player, []⟩
  let respond (status : UInt8) : Handled Arrival :=
    { canceled with
      actions := [.reply (.resourcePackClientResponse (.ofStatus status))] }
  match packet with
  | .resourcePacksInfo _ => respond ResourcePackClientResponse.haveAllPacks
  | .resourcePackStack _ => respond ResourcePackClientResponse.completed
  | .playStatus status =>
    if status.isFailure then
      { canceled with actions := [.transferFailed (refusal status.status)] }
    else canceled
  | .disconnect disconnect =>
    { canceled with actions := [.transferFailed disconnect.message] }
  | .startGame start =>
    { canceled with
      state := { arrival with started := true }
      player := arrival.spawn player start
      actions := [.transferStarted player.scene.takeDown.1, .reply (radiusRequest player)] }
  | _ => canceled

/-- Handles a packet of a backend that has spawned the player. The client keeps the radius
that it has. -/
def handleGame (arrival : Arrival) (player : Player) (packet : Packet) : Handled Arrival :=
  let untouched := Handled.untouched arrival player packet
  match packet with
  | .disconnect disconnect =>
    { untouched with
      verdict := .cancel, actions := [.transferFailed disconnect.message] }
  | .changeDimension change =>
    let transfer := player.transfer.map fun transfer =>
      { transfer with targetDimension := change.dimension }
    { untouched with player := { player with transfer := transfer } }
  | .chunkRadiusUpdated _ => { untouched with verdict := .cancel }
  | .startGame _ => { untouched with verdict := .cancel }
  | _ => untouched

end Arrival

/-- Looks at what the server sends that the player is moving to. -/
def Handler.arrival : Handler Arrival where
  wants arrival id := !arrival.started || id = PacketId.disconnect ||
    id = PacketId.changeDimension || id = PacketId.chunkRadiusUpdated || id = PacketId.startGame
  handle arrival player packet :=
    if arrival.started then arrival.handleGame player packet
    else arrival.handleLogin player packet

end Ferry
