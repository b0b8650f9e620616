import Ferry.Handler.Backend
import Ferry.Handler.Client
import Ferry.Session.Routing

/-!
# How a session takes in events

`Session.handle` is the whole of a running session: it takes in one event, and a session
that fails or wants to end is closed down at once. `Session.run` takes in events in a row.
-/

namespace Ferry

/-- Where a batch came from. -/
inductive BatchSource where
  | client
  | backend
  | pending
  deriving DecidableEq, Repr

namespace Work

/-- Sends a packet back where a batch came from. -/
def reply (source : BatchSource) (packet : Packet) : Work Unit :=
  match source with
  | .client => toClient fun peer => peer.sendNow [packet]
  | .backend => toBackend fun peer => peer.sendNow [packet]
  | .pending => toPending fun peer => peer.sendNow [packet]

/-- Does what a handler has asked for. -/
def act (source : BatchSource) : Action → Work Unit
  | .reply packet => reply source packet
  | .dimensionChanged => acknowledge
  | .transferStarted teardown => startTransfer teardown
  | .transferFailed message => failTransfer message
  | .kicked message => loseBackend (some message)

/-- Does what handlers have asked for, until the session is to end. -/
def actAll (source : BatchSource) : List Action → Work Unit
  | [] => pure ()
  | action :: actions => do
    act source action
    let session ← Work.session
    if session.exit.isNone then actAll source actions

/-- A frame has come from the client. While the client is locked into a transfer, no
backend hears from it. -/
def onClient (frame : Bytes) : Work Unit := do
  let session ← Work.session
  let (batch, connection, counted) := session.client.connection.decode frame
  update fun session => { session with client := { session.client with connection := connection } }
  tell (counted.map Output.counted)
  match batch with
  | .error fault => throw (.connection fault)
  | .ok batch =>
    let result := Bridge.process Handler.client .serverbound connection.version ()
      session.player batch
    updatePlayer fun _ => result.player
    tell (result.counted.map Output.counted)
    if !result.batch.packets.isEmpty && !result.player.isLocked then
      toBackend fun peer => peer.write result.batch
    actAll .client result.actions

/-- A frame has come from the backend. While the client is locked into a transfer, it hears
nothing from the backend that it leaves. -/
def onBackend (frame : Bytes) : Work Unit := do
  let session ← Work.session
  match session.backend with
  | none => pure ()
  | some backend =>
    let (batch, connection, counted) := backend.peer.connection.decode frame
    update fun session => { session with
      backend := some { backend with peer := { backend.peer with connection := connection } } }
    tell (counted.map Output.counted)
    match batch with
    | .error fault => throw (.connection fault)
    | .ok batch =>
      if !session.player.isLocked then
        let result := Bridge.process (Handler.backend backend.server) .clientbound
          connection.version () session.player batch
        updatePlayer fun _ => result.player
        tell (result.counted.map Output.counted)
        if !result.batch.packets.isEmpty then toClient fun peer => peer.write result.batch
        actAll .backend result.actions

/-- Lets what a new backend has sent wait for the client. -/
def keepWaiting (player : Player) (batch : Batch) : Player × List Action :=
  match player.transfer with
  | none => (player, [])
  | some transfer =>
    let (pushed, waiting) := transfer.waiting.push batch
    let player := { player with transfer := some { transfer with waiting := waiting } }
    match pushed with
    | .ok () => (player, [])
    | .error fault => (player, [.transferFailed fault.message])

/-- A frame has come from the backend that the player is moving to. -/
def onPending (frame : Bytes) : Work Unit := do
  let session ← Work.session
  match session.pending with
  | none => pure ()
  | some pending =>
    let (batch, connection, counted) := pending.peer.connection.decode frame
    let pending := { pending with peer := { pending.peer with connection := connection } }
    update fun session => { session with pending := some pending }
    tell (counted.map Output.counted)
    match batch with
    | .error fault => failTransfer fault.message
    | .ok batch =>
      let result := Bridge.process Handler.arrival .clientbound connection.version
        pending.arrival session.player batch
      let (player, failures) :=
        if result.state.started && !result.batch.packets.isEmpty then
          keepWaiting result.player result.batch
        else (result.player, [])
      update fun session => { session with
        pending := some { pending with arrival := result.state }
        player := player }
      tell (result.counted.map Output.counted)
      actAll .pending (result.actions ++ failures)

/-- A connection that was called for is there, or is not to be had. -/
def onConnected (attempt : Nat) (result : Except String (Nat × Connection)) : Work Unit := do
  let session ← Work.session
  match session.connecting.filter fun connecting => connecting.attempt = attempt with
  | none => pure ()
  | some connecting =>
    update fun session => { session with connecting := none }
    match result with
    | .ok (number, connection) =>
      let arrival := Arrival.start connecting.source connecting.server
        session.services.waitingLimits
      update fun session => { session with
        pending := some ⟨session.backendPeer number connection, arrival⟩ }
    | .error message => abandonTransfer connecting.server message

/-- Somebody wants the player to be on another server. -/
def onTransfer (server : Server) : Work Unit := do
  let session ← Work.session
  let current := session.backend.map Backend.server
  if !current.any fun current => current.same server then connectTo server current

/-- What an event comes to while the player is playing. -/
def onEvent : Event → Work Unit
  | .client (some frame) => onClient frame
  | .client none => update fun session => { session with exit := some .clientGone }
  | .backend (some frame) => onBackend frame
  | .backend none => loseBackend none
  | .pending (some frame) => onPending frame
  | .pending none => failTransfer connectionClosed
  | .connected attempt result => onConnected attempt result
  | .tick => do
    toClient Peer.flush
    toBackend Peer.flush
  | .transfer server => onTransfer server
  | .disconnect reason => leave reason
  | .severed _ => pure ()

/-- Closes a session down. What is queued is still written where the link is open, and the
client is told why. -/
def shutdown (exit : Exit) : Work Unit := do
  update fun session => { session with
    stage := .over
    connecting := none
    player := { session.player with transfer := none, scene := Scene.empty } }
  closePending
  closeBackend
  let session ← Work.session
  let last := match exit with
    | .farewell reason => some (Packet.disconnect reason.packet)
    | .clientGone => none
  let (peer, outputs) := session.client.close last
  update fun session => { session with client := peer }
  tell outputs

end Work

namespace Session

/-- Why a session ends that has failed. -/
def exitFor (session : Session) (fault : SessionError) : Exit :=
  if session.client.connection.severed then .clientGone
  else
    match fault with
    | .overflow _ => .farewell .queueOverflow
    | .connection cause => .farewell (.protocolError cause.message)

/-- The session and its outputs after some work, failed or not. -/
def after (work : Work Unit) (turn : SessionTurn) : Option SessionError × SessionTurn :=
  match work turn with
  | .ok () turn => (none, turn)
  | .error fault turn => (some fault, turn)

/-- Closes a session down that has failed or wants to end. -/
def settle (fault : Option SessionError) (turn : SessionTurn) : SessionTurn :=
  let exit := match fault with
    | some fault => some (turn.session.exitFor fault)
    | none => turn.session.exit
  match exit with
  | some exit => (after (Work.shutdown exit) turn).2
  | none => turn

/-- Marks a link whose other end is gone. -/
def sever (session : Session) (link : LinkId) : Session :=
  let mark (peer : Peer) : Peer :=
    if peer.link = link then { peer with connection := { peer.connection with severed := true } }
    else peer
  { session with
    client := mark session.client
    backend := session.backend.map fun backend => { backend with peer := mark backend.peer }
    pending := session.pending.map fun pending => { pending with peer := mark pending.peer } }

/-- The first backend is there, or is not to be had. -/
def join (session : Session) (server : Server)
    (result : Except String (Nat × Connection)) : SessionTurn :=
  match result with
  | .ok (number, connection) =>
    let backend : Backend := ⟨server, session.backendPeer number connection⟩
    ⟨{ session with stage := .playing, backend := some backend }, []⟩
  | .error message =>
    let exit := Exit.farewell (.transferFailed server.name message)
    (after (Work.shutdown exit) ⟨session, []⟩).2

/-- Takes in an event. Until the first backend is there, a session notices nothing else but
that a link is gone. -/
def handle (session : Session) (event : Event) : Session × List Output :=
  match session.stage, event with
  | _, .severed link => (session.sever link, [])
  | .over, _ => (session, [])
  | .joining server, .connected 0 result =>
    let turn := session.join server result
    (turn.session, turn.outputs)
  | .joining _, _ => (session, [])
  | .playing, event =>
    let (fault, turn) := after (Work.onEvent event) ⟨session, []⟩
    let turn := settle fault turn
    (turn.session, turn.outputs)

/-- Takes in events in a row. -/
def run (session : Session) : List Event → Session × List Output
  | [] => (session, [])
  | event :: events =>
    let (session, outputs) := session.handle event
    let (session, more) := session.run events
    (session, outputs ++ more)

end Session

end Ferry
