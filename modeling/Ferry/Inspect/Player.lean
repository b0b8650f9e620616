import Ferry.Bridge
import Ferry.Handler.Arrival
import Ferry.Handler.Backend
import Ferry.Handler.Client
import Ferry.Handler.Scripted
import Ferry.Inspect.Queue
import Ferry.Inspect.Server

/-!
# Players and handlers as documents
-/

namespace Ferry

instance : View WaitingLimits where
  toDocument limits := record [("soft", .ofDecimal limits.soft), ("hard", .ofDecimal limits.hard),
    ("release_batch", .ofDecimal limits.releaseBatch)]
  ofDocument? document := do
    let standard := WaitingLimits.default
    some ⟨← document.getOr "soft" standard.soft, ← document.getOr "hard" standard.hard,
      ← document.getOr "release_batch" standard.releaseBatch⟩

instance : View WaitingOverflow where
  toDocument overflow := failure "TransferQueueFull" overflow.message
  ofDocument? _ := none

instance : View Direction where
  toDocument
    | .clientbound => view "Clientbound"
    | .serverbound => view "Serverbound"
  ofDocument?
    | .null => some .clientbound
    | document => do
      let name ← document.toString?
      some (if name = "serverbound" then .serverbound else .clientbound)

instance : View PlayerIds where
  toDocument ids := .array [view ids.runtimeId, view ids.uniqueId]
  ofDocument? document := do some ⟨← document.at? 0, ← document.at? 1⟩

/-- The name of a phase. -/
def TransferPhase.name : TransferPhase → String
  | .departing => "Phase1"
  | .arriving => "Phase2"
  | .over => "Reset"

/-- The name of a step. -/
def TransferStep.name : TransferStep → String
  | .departed => "Phase1Completed"
  | .arrived => "Completed"
  | .ignored => "Ignored"

/-- The name of a server. -/
def viewServer (server : Server) : Json := view server.name

/-- A transfer without the packets that wait. -/
def Transfer.document (transfer : Transfer) : Json :=
  let waiting := transfer.waiting
  record [("phase", view transfer.phase.name), ("locked", view transfer.isLocked),
    ("source", view (transfer.source.map Server.name)), ("target", viewServer transfer.target),
    ("target_dimension", view transfer.targetDimension),
    ("fake_dimension", view transfer.temporaryDimension),
    ("queued", view waiting.packets.length), ("empty", view waiting.packets.isEmpty),
    ("dropped", view waiting.dropped)]

/-- What is known about a player. -/
def Player.document (player : Player) : Json :=
  let mapping := player.mapping
  record [("ids", .array [view mapping.client.runtimeId, view mapping.client.uniqueId,
      view mapping.backend.runtimeId, view mapping.backend.uniqueId]),
    ("dimension", view player.dimension), ("chunk_radius", view player.chunkRadius),
    ("spawn", .array [view player.spawnPosition, view player.spawnRotation]),
    ("identity", view [mapping.blocks.isIdentity, mapping.items.isIdentity]),
    ("transfer", (player.transfer.map Transfer.document).getD .null),
    ("tracked", view [player.scene.entities.length, player.scene.links.length])]

/-- Packets that the proxy makes, as they would be written. -/
def Packets.document (version : Version) (packets : List Packet) : Json :=
  view (packets.map (Packet.outgoing version))

/-- An action. -/
def Action.document (version : Version) : Action → Json
  | .reply packet => .array [view "Reply", view (packet.outgoing version)]
  | .dimensionChanged => .array [view "DimensionChangeSuccess"]
  | .transferStarted teardown =>
    .array [view "TransferStarted", Packets.document version teardown]
  | .transferFailed message => .array [view "TransferFailed", view message]
  | .kicked message => .array [view "BackendDisconnected", view message]

instance : View BridgeReport where
  toDocument report := view [report.forwarded, report.modified, report.canceled,
    report.canceledBytes, report.failed]
  ofDocument? _ := none

instance : View Rule where
  toDocument _ := .null
  ofDocument? document := do
    let verdict : String ← document.get? "verdict"
    let verdict ← [("forward", Verdict.forward), ("modified", .modified), ("cancel", .cancel),
      ("fail", .fail)].lookup verdict
    some ⟨← document.get? "put", ← document.get? "reply", verdict⟩

/-- One handler of any kind. -/
inductive AnyHandler where
  | client
  | backend (server : Server)
  | arrival (arrival : Arrival)
  | scripted (rules : List (PacketId × Rule))

namespace AnyHandler

/-- Hands a packet on, and keeps the kind of the handler. -/
def lift {σ : Type} (wrap : σ → AnyHandler) (handled : Handled σ) : Handled AnyHandler :=
  { handled with state := wrap handled.state }

/-- The handler that does what the one in its state does. -/
def handler : Handler AnyHandler where
  wants
    | .client, id => Handler.client.wants () id
    | .backend server, id => (Handler.backend server).wants () id
    | .arrival state, id => Handler.arrival.wants state id
    | .scripted rules, id => (Handler.scripted rules).wants () id
  handle
    | .client, player, packet => lift (fun _ => .client) (Handler.client.handle () player packet)
    | .backend server, player, packet =>
      lift (fun _ => .backend server) ((Handler.backend server).handle () player packet)
    | .arrival state, player, packet =>
      lift .arrival (Handler.arrival.handle state player packet)
    | .scripted rules, player, packet =>
      lift (fun _ => .scripted rules) ((Handler.scripted rules).handle () player packet)

/-- The name of the server that the handler is for. -/
def serverName : AnyHandler → Option String
  | .backend server => some server.name
  | .arrival state => some state.target.name
  | _ => none

/-- Whether the transfer has started that the handler is for. -/
def started : AnyHandler → Option Bool
  | .arrival state => some state.started
  | _ => none

end AnyHandler

end Ferry
