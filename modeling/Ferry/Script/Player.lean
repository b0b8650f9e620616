import Ferry.Script.Basic

/-!
# Scripts about a player

The script adopts backends, takes packets across, lets handlers look at them and moves a
transfer on, all without connections.
-/

namespace Ferry.Script

/-- A player, and the handlers that look at packets, by their labels. -/
structure Bench where
  player : Player
  handlers : List (String × AnyHandler)
  codec : FrameCodec
  /-- Where packets wait while there is no transfer. -/
  waiting : Waiting
  servers : List Server
  /-- The player as it was shown last. -/
  shown : Option Json

namespace Bench

/-- The decoded packet of a step. -/
def decode (bench : Bench) (request : Json) : Option (Except DecodeError Packet) := do
  let packet : RawPacket ← request.get? "packet"
  some (packet.toBatchPacket.decode bench.codec.version)

/-- The server of a name, where a name is given. -/
def source? (bench : Bench) (request : Json) : Option (Option Server) := do
  let name : Option String ← request.get? "source"
  some (name >>= Server.named? bench.servers)

/-- The handler that a step describes. -/
def handlerOf (bench : Bench) (request : Json) : Option AnyHandler := do
  let name : Option String ← request.get? "server"
  let server := name >>= Server.named? bench.servers
  match ← request.get? "kind" with
  | "upstream" => some .client
  | "downstream" => .backend <$> server
  | "transfer" => do
    some (.arrival (Arrival.start (← bench.source? request) (← server)
      (← request.getOr "limits" WaitingLimits.default)))
  | _ => do
    let rules : Json ← request.get? "rules"
    let rules ← (← rules.members?).mapM fun (entry : String × Json) => do
      some (UInt32.ofNat (← entry.1.toNat?), ← entry.2.as?)
    some (.scripted rules)

/-- The batch of a step: raw packets or a frame. -/
def batchOf (bench : Bench) (request : Json) : Option (Except FrameError Batch × FrameCodec) := do
  match request.member? "frame" with
  | some frame => do
    let (batch, codec, _) := bench.codec.decode (← frame.as?)
    some (batch, codec)
  | none => do
    let batch ← rawBatch request
    some (.ok { batch with modified := ← request.getOr "modified" false }, bench.codec)

/-- Lets a batch wait for the client of a player who is being transferred. -/
def pushWaiting (player : Player) (batch : Batch) : Json × Player :=
  match player.transfer with
  | some transfer =>
    let (pushed, waiting) := transfer.waiting.push batch
    (viewDone pushed, { player with transfer := some { transfer with waiting := waiting } })
  | none => (.null, player)

/-- Takes a batch across. -/
def process (bench : Bench) (request : Json) : Option (Json × Bench) := do
  let label : String ← request.get? "handler"
  let direction : Direction ← request.get? "dir"
  let (batch, codec) ← bench.batchOf request
  match batch with
  | .error fault => some (view fault, { bench with codec := codec })
  | .ok batch => do
    let version := codec.version
    let result := Bridge.process AnyHandler.handler direction version
      (← bench.handlers.lookup label) bench.player batch
    let started := result.state.started.toList.map fun started => ("started", view started)
    let queue : Bool ← request.getOr "queue" false
    let (queued, player) :=
      if queue then
        let (answer, player) := pushWaiting result.player result.batch
        ([("queue", answer)], player)
      else ([], result.player)
    some (record ([("report", view result.report), ("direction", view direction),
      ("pass_through", view result.report.isPassThrough), ("modified", view result.batch.modified),
      ("packets", view (result.batch.outgoing version)),
      ("dirty", view (result.batch.packets.map BatchPacket.dirty)),
      ("actions", .array (result.actions.map (Action.document version))),
      ("observed", view result.counted)] ++ started ++ queued),
      { bench with
        codec := codec
        player := player
        handlers := (label, result.state) :: bench.handlers })

/-- Does something with the packets that wait. -/
def onWaiting (bench : Bench) (change : Waiting → Json × Waiting) : Json × Bench :=
  let player := bench.player
  let (result, waiting) := change ((player.transfer.map Transfer.waiting).getD bench.waiting)
  (record [("result", result), ("len", view waiting.packets.length),
      ("empty", view waiting.packets.isEmpty), ("dropped", view waiting.dropped)],
    match player.transfer with
    | some transfer =>
      { bench with player := { player with transfer := some { transfer with waiting := waiting } } }
    | none => { bench with waiting := waiting })

/-- A batch that was released. -/
def releasedDocument (version : Version) (batch : Batch) : Json :=
  record [("modified", view batch.modified), ("packets", view (batch.outgoing version))]

/-- The kinds of packets that somebody wants. -/
def wantedBy (bench : Bench) (direction : Direction) (label : String) :
    Option (PacketId → Bool) :=
  match label with
  | "rewrite" => some (bench.player.mapping.concerns direction)
  | "tracker" => some Scene.packets.contains
  | label => (bench.handlers.lookup label).map AnyHandler.handler.wants

/-- Carries out one step. -/
def act (bench : Bench) (request : Json) : Option (Json × Bench) := do
  let player := bench.player
  let version := bench.codec.version
  let direction : Direction ← request.get? "dir"
  let withPlayer (player : Player) : Option (Json × Bench) :=
    some (.null, { bench with player := player })
  let packets (made : Player → Transfer → List Packet) : Option (Json × Bench) :=
    some ((player.transfer.map fun transfer =>
      Packets.document version (made player transfer)).getD .null, bench)
  match ← request.get? "do" with
  | "adopt" => do
    match ← bench.decode request, ← Server.named? bench.servers (← request.get? "server") with
    | .ok (.startGame packet), server => withPlayer (player.adopt packet server)
    | _, _ => none
  | "dimension" => do withPlayer { player with dimension := ← request.get? "value" }
  | "interested" => do
    let wants ← bench.wantedBy direction (← request.get? "what")
    some (view (((List.range 1024).map UInt32.ofNat).filter wants), bench)
  | "rewrite" => do
    let shown (packet : Packet) : Json :=
      let moved := player.mapping.packet direction packet
      record [("changed", view (player.mapping.changes direction packet)),
        ("packet", view (moved.outgoing version))]
    some (viewResult shown (← bench.decode request), bench)
  | "observe" => do
    match ← bench.decode request with
    | .ok packet => withPlayer { player with scene := player.scene.observe packet }
    | .error fault => some (view fault, bench)
  | "contains" => do
    some (view (player.scene.entities.contains (← request.get? "id")), bench)
  | "teardown" =>
    let (packets, scene) := player.scene.takeDown
    some (Packets.document version packets, { bench with player := { player with scene := scene } })
  | "clear" => withPlayer { player with scene := Scene.empty }
  | "handler" => do
    let handler ← bench.handlerOf request
    some (view handler.serverName,
      { bench with handlers := (← request.get? "label", handler) :: bench.handlers })
  | "process" => bench.process request
  | "transfer" => do
    let target ← Server.named? bench.servers (← request.get? "target")
    let transfer := Transfer.start (← bench.source? request) target (← request.get? "current")
      (← request.get? "target_dimension") (← request.getOr "limits" WaitingLimits.default)
    withPlayer { player with transfer := some transfer }
  | "end_transfer" => withPlayer { player with transfer := none }
  | "ack" =>
    match player.transfer.map Transfer.acknowledge with
    | some (step, transfer) => some (view step.name,
        { bench with player := { player with transfer := some transfer } })
    | none => some (.null, bench)
  | "start_packets" => packets Player.departurePackets
  | "phase1_packets" => packets Player.arrivalPackets
  | "completion_packets" => packets fun _ _ => Player.completionPackets
  | "initialized" => some (view (player.initializedPacket.outgoing version), bench)
  | "push" => do
    let batch ← rawBatch request
    some <| bench.onWaiting fun waiting =>
      let (result, waiting) := waiting.push batch
      (viewDone result, waiting)
  | "release" =>
    some <| bench.onWaiting fun waiting =>
      let (batches, waiting) := waiting.release
      (.array (batches.map (releasedDocument version)), waiting)
  | _ => none

/-- Carries out one step, and shows the player where it has changed. -/
def step (bench : Bench) (request : Json) : Option (Json × Bench) := do
  let (result, bench) ← bench.act request
  let state := bench.player.document
  let unchanged := bench.shown.any fun shown =>
    Bytes.ofByteArray shown.render = Bytes.ofByteArray state.render
  let members := if unchanged then [] else [("state", state)]
  some (record (("result", result) :: members), { bench with shown := some state })

end Bench

/-- Carries out a script about a player. -/
def player (request : Json) : Option Json := do
  let ids : Option PlayerIds ← request.get? "client_ids"
  let limits ← request.getOr "limits" WaitingLimits.default
  let bench : Bench := ⟨Player.start ids, [], FrameCodec.ofVersion (← versionOf request),
    Waiting.empty limits, ← Servers.ofDocument? request, none⟩
  let (answers, _) ← steps Bench.step bench (← request.get? "steps")
  some (.array answers)

end Ferry.Script
