import Ferry.Handler.Basic

/-!
# Packets from the client
-/

namespace Ferry.Handler

/-- Looks at what the client sends. During a transfer the client acknowledges changes of
dimension that its backend knows nothing about. -/
def client : Handler Unit where
  wants _ id := id = PacketId.playerAction || id = PacketId.requestChunkRadius
  handle _ player packet :=
    let untouched := Handled.untouched () player packet
    match packet with
    | .playerAction action =>
      if action.action = PlayerAction.dimensionChangeSuccess && player.transfer.isSome then
        { untouched with verdict := .cancel, actions := [.dimensionChanged] }
      else untouched
    | .requestChunkRadius request =>
      { untouched with player := { player with chunkRadius := request.radius } }
    | _ => untouched

end Ferry.Handler
