import Ferry.Mapping
import Ferry.Server
import Ferry.Transfer.Dimension
import Ferry.Transfer.Waiting

/-!
# Transfers

A player moves to another backend without leaving the game. The client is sent through two
changes of dimension: first into a dimension that is neither the one it is in nor the one
it is to arrive in, then into that of the new backend. The client acknowledges both, and
each acknowledgment moves the transfer on.
-/

namespace Ferry

/-- How far a transfer has got. -/
inductive TransferPhase where
  /-- The client is on its way into the temporary dimension. -/
  | departing
  /-- The client is on its way into the new backend's dimension. -/
  | arriving
  /-- The client has arrived. -/
  | over
  deriving DecidableEq, Repr

/-- What an acknowledgment means to a transfer. -/
inductive TransferStep where
  /-- The client has left the old backend. -/
  | departed
  /-- The client has arrived at the new one. -/
  | arrived
  /-- Nothing. -/
  | ignored
  deriving DecidableEq, Repr

/-- A transfer in progress. -/
structure Transfer where
  phase : TransferPhase
  /-- The server being left, unless it was lost. -/
  source : Option Server
  target : Server
  targetDimension : Int32
  /-- Where the client is while the new backend spawns the player. -/
  temporaryDimension : Int32
  /-- The new backend's packets, until the client has left the old one. -/
  waiting : Waiting

namespace Transfer

/-- A transfer that begins with the client in one dimension and ends in another. -/
def start (source : Option Server) (target : Server) (current targetDimension : Int32)
    (limits : WaitingLimits) : Transfer where
  phase := .departing
  source := source
  target := target
  targetDimension := targetDimension
  temporaryDimension := Dimension.other current targetDimension
  waiting := Waiting.empty limits

/-- Whether the client has not left the old backend yet. -/
def isLocked (transfer : Transfer) : Bool := transfer.phase = .departing

/-- The transfer after the client has acknowledged a change of dimension. -/
def acknowledge (transfer : Transfer) : TransferStep × Transfer :=
  match transfer.phase with
  | .departing => (.departed, { transfer with phase := .arriving })
  | .arriving => (.arrived, { transfer with phase := .over })
  | .over => (.ignored, transfer)

end Transfer

end Ferry
