import Ferry.Inspect.Connection
import Ferry.Script.Basic
import Ferry.Session.Run

/-!
# Scripts of sessions

The script plays the client, the backends and whoever gives orders to the session. After
every step the session takes in all that there is for it to take in, and the answer shows
what has arrived at the other ends of its links.
-/

namespace Ferry.Script

/-- The other end of one of the session's links. -/
structure FarLink where
  codec : FrameCodec
  /-- Frames on their way to the session, oldest first. -/
  incoming : List Bytes
  /-- Whether the script has dropped this end. -/
  gone : Bool
  /-- Whether this end was shown to be closed. -/
  seenClosed : Bool
  /-- What has arrived since it was shown last. -/
  arrived : List Json

namespace FarLink

/-- A new link. -/
def start (codec : FrameCodec) : FarLink := ⟨codec, [], false, false, []⟩

/-- Whether the script can still use this end. -/
def usable (far : FarLink) : Bool := !far.gone && !far.seenClosed

/-- Takes in a frame that the session has written. -/
def deliver (far : FarLink) (frame : Bytes) : FarLink :=
  if far.usable then
    let (batch, codec, _) := far.codec.decode frame
    { far with
      codec := codec
      arrived := far.arrived ++
        [viewResult (fun batch => view (batch.outgoing codec.version)) batch] }
  else far

/-- Puts a batch of raw packets on its way to the session. -/
def sendBatch (far : FarLink) (batch : Batch) : FarLink :=
  let (frame, codec, _) := far.codec.encode batch
  { far with codec := codec, incoming := far.incoming ++ [frame] }

end FarLink

/-- How a call for a connection to a server is answered. -/
inductive DialMode where
  | answered
  | refused
  /-- As a later step says. -/
  | open
  deriving DecidableEq

/-- A session and everything around it. -/
structure Stage where
  session : Session
  client : FarLink
  /-- The other ends of the links to backends, by number. -/
  backends : List FarLink
  servers : List (Server × DialMode)
  /-- The codec that both ends of a new link to a backend begin with. -/
  backendCodec : FrameCodec
  /-- Calls that no step has answered yet. -/
  unanswered : List (Nat × Server)
  /-- Answers that the session has not taken in yet. -/
  answers : List (Nat × Except String Nat)
  orders : List Event
  ticks : Nat
  /-- Whether orders can still be given. -/
  hasHandle : Bool
  connects : List Json
  events : List Json
  observed : List Json

namespace Stage

/-- Opens a link to a backend. -/
def openLink (stage : Stage) : Nat × Stage :=
  (stage.backends.length,
    { stage with backends := stage.backends ++ [FarLink.start stage.backendCodec] })

/-- Answers a call. -/
def answer (stage : Stage) (attempt : Nat) (result : Except String Nat) : Stage :=
  { stage with answers := stage.answers ++ [(attempt, result)] }

/-- Whether something is counted that is shown. What the codecs of links count is not. -/
def isShown : Observation → Bool
  | .queueOverflow _ _ | .canceled _ _ | .dropped _ => true
  | _ => false

/-- What an output of the session leads to. -/
def react (stage : Stage) : Output → Stage
  | .written .client _ frame => { stage with client := stage.client.deliver frame }
  | .written (.backend number) _ frame =>
    { stage with backends := stage.backends.modify number fun far => far.deliver frame }
  | .dialed attempt server =>
    let label := s!"{server.name}:{stage.session.login.protocolVersion.toNat}"
    let stage := { stage with connects := stage.connects ++ [view label] }
    match (stage.servers.find? fun entry => entry.1.same server).map Prod.snd with
    | some .refused => stage.answer attempt (.error "dial: connection refused")
    | some .open => { stage with unanswered := stage.unanswered ++ [(attempt, server)] }
    | _ =>
      let (number, stage) := stage.openLink
      stage.answer attempt (.ok number)
  | .soughtFallback _ _ => stage
  | .packsRebuilt =>
    let id := toString stage.session.login.session
    { stage with events := stage.events ++ [view ["resource_packs_rebuilt", id]] }
  | .transferred source target =>
    let id := toString stage.session.login.session
    let event := view ["transfer_completed", id, source.name, target.name]
    { stage with events := stage.events ++ [event] }
  | .counted observation =>
    if isShown observation then { stage with observed := stage.observed ++ [view observation] }
    else stage

/-- Lets the session take in an event. When it begins to play, a tick is due at once. -/
def deliver (stage : Stage) (event : Event) : Stage :=
  let (session, outputs) := stage.session.handle event
  let begins := match stage.session.stage, session.stage with
    | .joining _, .playing => true
    | _, _ => false
  let stage := { stage with session := session, ticks := if begins then 1 else stage.ticks }
  outputs.foldl react stage

/-- The next frame on a link, or its end. -/
def nextFrame (far : FarLink) : Option (Option Bytes × FarLink) :=
  match far.incoming with
  | frame :: frames => some (some frame, { far with incoming := frames })
  | [] => if far.gone then some (none, far) else none

/-- The next frame on the link of a backend, or its end. -/
def nextBackendFrame (stage : Stage) (link : Option LinkId) : Option (Option Bytes × Stage) := do
  match ← link with
  | .client => none
  | .backend number => do
    let (frame, far) ← nextFrame (← stage.backends[number]?)
    some (frame, { stage with backends := stage.backends.set number far })

/-- The answer that the session waits for. -/
def nextAnswer (stage : Stage) : Option Event := do
  let attempt ← stage.session.awaited
  match ← stage.answers.lookup attempt with
  | .error message => some (.connected attempt (.error message))
  | .ok number => do
    let far ← stage.backends[number]?
    some (.connected attempt (.ok (number, ⟨stage.backendCodec, far.gone⟩)))

/-- The next event for a session that is playing. -/
def nextEvent (stage : Stage) : Option (Event × Stage) :=
  let session := stage.session
  match nextFrame stage.client with
  | some (frame, far) => some (.client frame, { stage with client := far })
  | none =>
  match stage.nextBackendFrame (session.backend.map fun backend => backend.peer.link) with
  | some (frame, stage) => some (.backend frame, stage)
  | none =>
  match stage.nextBackendFrame (session.pending.map fun pending => pending.peer.link) with
  | some (frame, stage) => some (.pending frame, stage)
  | none =>
  match stage.nextAnswer with
  | some event => some (event, stage)
  | none =>
  match stage.ticks, stage.orders with
  | ticks + 1, _ => some (.tick, { stage with ticks := ticks })
  | 0, order :: orders => some (order, { stage with orders := orders })
  | 0, [] => none

/-- Lets the session take in all that there is, up to a number of events. -/
def settle : (fuel : Nat) → Stage → Stage
  | 0, stage => stage
  | fuel + 1, stage =>
    match stage.session.stage with
    | .over => stage
    | .joining _ =>
      match stage.nextAnswer with
      | some event => settle fuel (stage.deliver event)
      | none => stage
    | .playing =>
      match stage.nextEvent with
      | some (event, stage) => settle fuel (stage.deliver event)
      | none => stage

/-- Whether the session, or an answer that it waits for, holds a link. -/
def holds (stage : Stage) (link : LinkId) : Bool :=
  stage.session.links.contains link ||
    match link, stage.session.awaited with
    | .backend number, some attempt =>
      match stage.answers.lookup attempt with
      | some (.ok other) => other = number
      | _ => false
    | _, _ => false

/-- Shows what has arrived at the other end of a link. -/
def showLink (stage : Stage) (name : String) (link : LinkId) (far : FarLink) :
    List (String × Json) × FarLink :=
  let closed := far.usable && !stage.holds link
  let arrived := far.arrived ++ if closed then [view "closed"] else []
  (if arrived.isEmpty then [] else [(name, view arrived)],
    { far with arrived := [], seenClosed := far.seenClosed || closed })

/-- Shows what has happened since it was shown last. -/
def collect (stage : Stage) (result : Json) : Json × Stage :=
  let isOver := match stage.session.stage with
    | .over => true
    | _ => false
  let unlessEmpty (name : String) (shown : List Json) : List (String × Json) :=
    if shown.isEmpty then [] else [(name, view shown)]
  let (clientShown, client) := stage.showLink "client" .client stage.client
  let shown := stage.backends.zipIdx.map fun (far, number) =>
    stage.showLink s!"backend_{number}" (.backend number) far
  (record ([("result", result), ("over", if stage.hasHandle then view isOver else .null)] ++
      clientShown ++ (shown.map Prod.fst).flatten ++ unlessEmpty "connects" stage.connects ++
      unlessEmpty "events" stage.events ++ unlessEmpty "observed" stage.observed),
    { stage with
      client := client
      backends := shown.map Prod.snd
      connects := [], events := [], observed := [] })

/-- Sends from the other end of a link. -/
def send (stage : Stage) (link : LinkId) (act : FarLink → FarLink) : Option (Json × Stage) := do
  let far ← match link with
    | .client => some stage.client
    | .backend number => stage.backends[number]?
  if !far.usable then some (.null, stage)
  else if !stage.holds link then some (view false, stage)
  else some (view true,
    match link with
    | .client => { stage with client := act far }
    | .backend number => { stage with backends := stage.backends.set number (act far) })

/-- Drops the other end of a link. -/
def drop (stage : Stage) (link : LinkId) : Option (Json × Stage) := do
  let (sent, stage) ← stage.send link fun far => { far with gone := true }
  match sent with
  | .bool true => some (sent, stage.deliver (.severed link))
  | _ => some (view false, stage)

/-- Gives an order to the session. -/
def order (stage : Stage) (event : Event) : Json × Stage :=
  if !stage.hasHandle then (.null, stage)
  else
    match stage.session.stage with
    | .over => (view false, stage)
    | _ => (view true, { stage with orders := stage.orders ++ [event] })

/-- Queues a packet for the client. -/
def push (stage : Stage) (request : Json) : Option (Json × Stage) := do
  if !stage.hasHandle then some (.null, stage)
  else do
    let packet : RawPacket ← request.get? "packet"
    match packet.toBatchPacket.decode stage.client.codec.version with
    | .error fault => some (view fault, stage)
    | .ok packet =>
      let (result, session, outputs) := stage.session.push packet
      some (viewDone result, outputs.foldl react { stage with session := session })

/-- Answers one of the calls that are open. -/
def resolve (stage : Stage) (index : Nat) (ok : Bool) : Option (Json × Stage) := do
  let (attempt, server) ← stage.unanswered[index]?
  let waiting := stage.session.awaited = some attempt
  let stage := { stage with unanswered := stage.unanswered.eraseIdx index }
  let shown := Json.array [view server.name, view (decide waiting)]
  if ok then
    let (number, stage) := stage.openLink
    some (shown, stage.answer attempt (.ok number))
  else some (shown, stage.answer attempt (.error "refused late"))

/-- Carries out one step without letting the session run. -/
def act (stage : Stage) (request : Json) : Option (Json × Stage) := do
  let frame (link : LinkId) : Option (Json × Stage) := do
    let frame : Bytes ← request.get? "frame"
    stage.send link fun far => { far with incoming := far.incoming ++ [frame] }
  let batch (link : LinkId) : Option (Json × Stage) := do
    let batch ← rawBatch request
    stage.send link fun far => far.sendBatch batch
  match ← request.get? "do" with
  | "client" => batch .client
  | "backend" => do batch (.backend (← request.get? "n"))
  | "client_frame" => frame .client
  | "backend_frame" => do frame (.backend (← request.get? "n"))
  | "drop_client" => stage.drop .client
  | "drop_backend" => do stage.drop (.backend (← request.get? "n"))
  | "transfer" => do
    let server ← Server.named? (stage.servers.map Prod.fst) (← request.get? "server")
    some (stage.order (.transfer server))
  | "disconnect" => do some (stage.order (.disconnect (← farewellOf request)))
  | "push" => stage.push request
  | "drop_handle" => some (view true, { stage with hasHandle := false })
  | "tick" =>
    match stage.session.stage with
    | .playing => some (.null, { stage with ticks := stage.ticks + 1 })
    | _ => some (.null, stage)
  | "resolve" => do stage.resolve (← request.get? "n") (← request.get? "ok")
  | _ => none

/-- How many events a session is given at most between two steps. -/
def patience : Nat := 10000

/-- Carries out one step and lets the session run. -/
def step (stage : Stage) (request : Json) : Option (Json × Stage) := do
  let (result, stage) ← match ← request.get? "do" with
    | "together" => do
      let (results, stage) ← steps act stage (← request.get? "steps")
      some (Json.array results, stage)
    | _ => stage.act request
  some ((settle patience stage).collect result)

/-- How calls for connections to a server are answered. -/
def modeOf (server : Json) : Option DialMode := do
  let mode : String ← server.getOr "connect" "ok"
  [("ok", DialMode.answered), ("fail", .refused), ("manual", .open)].lookup mode

end Stage

/-- Carries out a script about a session. -/
def session (request : Json) : Option Json := do
  let version ← versionOf request
  let backendVersion : UInt32 ← request.getOr "backend_version" version.number
  let servers ← Servers.ofDocument? request
  let modes ← (← request.get? "servers" : List Json).mapM Stage.modeOf
  let names : List String ← request.getOr "fallback" []
  let fallback ← names.mapM (Server.named? servers)
  let services : SessionServices :=
    ⟨← request.getOr "queue" QueueLimits.default,
      ← request.getOr "transfer_queue" WaitingLimits.default,
      fun lost _ _ => Server.fallback? fallback lost⟩
  let login : LoginData := ⟨⟨1⟩, version.number,
    ⟨version.number.toInt32, Bytes.ofString "chain"⟩, ← request.get? "client_ids"⟩
  let codec : FrameCodec := ⟨version, ← request.getOr "client_compression" .disabled, none⟩
  let (session, outputs) := Session.start login services ⟨codec, false⟩
    (← Server.named? servers (← request.get? "initial"))
  let stage : Stage :=
    { session := session
      client := FarLink.start codec
      backends := []
      servers := servers.zip modes
      backendCodec := ⟨⟨backendVersion⟩, ← request.getOr "backend_compression" .disabled, none⟩
      unanswered := [], answers := [], orders := [], ticks := 0, hasHandle := true
      connects := [], events := [], observed := [] }
  let (first, stage) :=
    (Stage.settle Stage.patience (outputs.foldl Stage.react stage)).collect .null
  let (answers, _) ← steps Stage.step stage (← request.get? "steps")
  some (.array (first :: answers))

end Ferry.Script
