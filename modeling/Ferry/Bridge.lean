import Ferry.Handler.Basic
import Ferry.Observation

/-!
# Bridging batches between the two sides

Every packet of a batch goes past the handler, is put into the terms of the other side, and,
on its way to the client, is recorded in the scene. A packet that none of the three cares
about is not decoded. A batch in which nothing was changed or canceled keeps the bytes it came in.
-/

namespace Ferry

/-- What became of the packets of a batch. -/
structure BridgeReport where
  forwarded : Nat
  modified : Nat
  canceled : Nat
  /-- The bytes in the bodies of the canceled packets. -/
  canceledBytes : Nat
  /-- The packets that were canceled because they could not be handled. -/
  failed : Nat
  deriving DecidableEq, Repr

namespace BridgeReport

/-- No packets. -/
def zero : BridgeReport := ⟨0, 0, 0, 0, 0⟩

/-- Whether the batch can go out in the bytes it came in. -/
def isPassThrough (report : BridgeReport) : Bool :=
  report.modified = 0 && report.canceled = 0

/-- Counts a packet that goes on. -/
def keep (report : BridgeReport) (packet : BatchPacket) : BridgeReport :=
  if packet.dirty then { report with modified := report.modified + 1 }
  else { report with forwarded := report.forwarded + 1 }

/-- Counts a packet that is taken out. -/
def drop (report : BridgeReport) (packet : BatchPacket) (failed : Bool) : BridgeReport :=
  { report with
    canceled := report.canceled + 1
    canceledBytes := report.canceledBytes + packet.body.length
    failed := report.failed + failed.toNat }

end BridgeReport

/-- What bridging has led to so far. -/
structure Crossing (σ : Type) where
  state : σ
  player : Player
  /-- The packets that go on. -/
  packets : List BatchPacket
  report : BridgeReport
  actions : List Action

namespace Bridge

variable {σ : Type}

/-- Whether a packet of a kind is recorded in the scene. -/
def records (direction : Direction) (id : PacketId) : Bool :=
  direction = .clientbound && Scene.packets.contains id

/-- Whether anybody cares about a packet of a kind. -/
def isNoticed (handler : Handler σ) (direction : Direction) (state : σ) (player : Player)
    (id : PacketId) : Bool :=
  handler.wants state id || player.mapping.concerns direction id || records direction id

/-- Takes a packet that the handler has let through to the other side: it is put into the
terms of that side, by the mapping that holds now, and recorded. It is written anew only if the
handler or the mapping says that it was changed. -/
def passOn (direction : Direction) (packet : BatchPacket) (handled : Handled σ) :
    BatchPacket × Player :=
  let id := packet.header.id
  let player := handled.player
  let concerned := player.mapping.concerns direction id
  let value :=
    if concerned then player.mapping.packet direction handled.packet else handled.packet
  let changed := handled.verdict = .modified ||
    (concerned && player.mapping.changes direction handled.packet)
  ({ packet with decoded := some value, dirty := packet.dirty || changed },
    if records direction id then { player with scene := player.scene.observe value }
    else player)

/-- What the handler makes of a packet; a handler that does not want it leaves it alone. -/
def handle (handler : Handler σ) (state : σ) (player : Player) (id : PacketId)
    (packet : Packet) : Handled σ :=
  if handler.wants state id then handler.handle state player packet
  else Handled.untouched state player packet

/-- Takes one packet across. -/
def cross (handler : Handler σ) (direction : Direction) (version : Version)
    (crossing : Crossing σ) (packet : BatchPacket) : Crossing σ :=
  let id := packet.header.id
  if isNoticed handler direction crossing.state crossing.player id then
    match packet.decode version with
    | .error _ => { crossing with report := crossing.report.drop packet true }
    | .ok value =>
      let handled := handle handler crossing.state crossing.player id value
      let crossing := { crossing with
        state := handled.state
        actions := crossing.actions ++ handled.actions }
      match handled.verdict with
      | .cancel => { crossing with
          player := handled.player
          report := crossing.report.drop packet false }
      | .fail => { crossing with
          player := handled.player
          report := crossing.report.drop packet true }
      | _ =>
        let (packet, player) := passOn direction packet handled
        { crossing with
          player := player
          packets := crossing.packets ++ [packet]
          report := crossing.report.keep packet }
  else { crossing with
    packets := crossing.packets ++ [packet]
    report := crossing.report.keep packet }

/-- What bridging a batch leads to. -/
structure Result (σ : Type) where
  batch : Batch
  state : σ
  player : Player
  report : BridgeReport
  actions : List Action
  counted : List Observation

/-- Takes a batch across. -/
def process (handler : Handler σ) (direction : Direction) (version : Version) (state : σ)
    (player : Player) (batch : Batch) : Result σ :=
  let start : Crossing σ := ⟨state, player, [], BridgeReport.zero, []⟩
  let crossing := batch.packets.foldl (cross handler direction version) start
  let report := crossing.report
  let kept := { batch with packets := crossing.packets }
  { batch := if report.isPassThrough then kept else kept.markModified
    state := crossing.state
    player := crossing.player
    report := report
    actions := crossing.actions
    counted :=
      if report.canceled = 0 then [] else [.canceled report.canceled report.canceledBytes] }

end Bridge

end Ferry
