import Ferry.Handler.Basic

/-!
# Packets from the backend that the player is on
-/

namespace Ferry.Handler

/-- Looks at what the server sends that the player is on. -/
def backend (server : Server) : Handler Unit where
  wants _ id := id = PacketId.startGame || id = PacketId.changeDimension ||
    id = PacketId.disconnect || id = PacketId.chunkRadiusUpdated
  handle _ player packet :=
    let untouched := Handled.untouched () player packet
    match packet with
    | .startGame start =>
      { untouched with
        player := { player.adopt start server with dimension := start.dimension } }
    | .changeDimension change =>
      { untouched with player := { player with dimension := change.dimension } }
    | .chunkRadiusUpdated update =>
      { untouched with player := { player with chunkRadius := update.radius } }
    | .disconnect disconnect =>
      { untouched with verdict := .cancel, actions := [.kicked disconnect.message] }
    | _ => untouched

end Ferry.Handler
