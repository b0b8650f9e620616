import Ferry.Player

/-!
# Handlers

A handler looks at the packets that come from one connection. It keeps a state of its own,
may change what is known about the player, asks the session for further work, and gives a
verdict on each packet.
-/

namespace Ferry

/-- What is to become of a packet. -/
inductive Verdict where
  | forward
  /-- It goes on, and the handler has changed it. -/
  | modified
  /-- It is taken out of its batch. -/
  | cancel
  /-- It could not be handled, and is taken out of its batch. -/
  | fail
  deriving DecidableEq, Repr

/-- Work for the session once a batch is through. -/
inductive Action where
  /-- Send a packet back where the batch came from. -/
  | reply (packet : Packet)
  /-- The client has acknowledged a change of dimension that belongs to a transfer. -/
  | dimensionChanged
  /-- A new backend has spawned the player. These packets take all that the old one has
  shown from the client. -/
  | transferStarted (teardown : List Packet)
  /-- A new backend has refused the player. -/
  | transferFailed (message : String)
  /-- The backend has sent the player away. -/
  | kicked (message : String)
  deriving DecidableEq, Repr

/-- What handling a packet leads to. -/
structure Handled (σ : Type) where
  verdict : Verdict
  packet : Packet
  state : σ
  player : Player
  actions : List Action

/-- A handler with a state of its own. -/
structure Handler (σ : Type) where
  /-- The kinds of packets that it looks at. Others need not be decoded for it. -/
  wants : σ → PacketId → Bool
  handle : σ → Player → Packet → Handled σ

/-- What leaving a packet alone leads to. -/
def Handled.untouched {σ : Type} (state : σ) (player : Player) (packet : Packet) : Handled σ :=
  ⟨.forward, packet, state, player, []⟩

end Ferry
