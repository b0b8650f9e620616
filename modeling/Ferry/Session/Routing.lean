import Ferry.Session.Work

/-!
# Where a player goes

Connections are called for here, transfers begin, go on and fail, and a player whose
backend is lost goes to another server or is sent away.
-/

namespace Ferry.Work

/-- The text that stands for a link that was closed. -/
def connectionClosed : String := "connection closed"

/-- Calls for a connection, in place of any that was called for before. A player who is
being transferred stays on its way. -/
def connectTo (server : Server) (source : Option Server) : Work Unit := do
  let session ← Work.session
  if session.player.transfer.isNone then
    update fun session => { session with
      pending := none
      connecting := some ⟨session.attempts, server, source⟩
      attempts := session.attempts + 1 }
    tell [.dialed session.attempts server]

/-- Ends the session once the work in hand is done. -/
def leave (reason : Farewell) : Work Unit :=
  update fun session => { session with exit := some (.farewell reason) }

/-- Sends the player to another server than the lost one, or away. -/
def fallBack (lost : Server) (reason : Farewell) (message : String) : Work Unit := do
  let session ← Work.session
  let found := session.services.fallback lost reason message
  tell [.soughtFallback lost found]
  match found with
  | some server => if server.same lost then leave reason else connectTo server none
  | none => leave reason

/-- Gives up a transfer, and the backends on both its ends. -/
def abandonTransfer (target : Server) (message : String) : Work Unit := do
  update fun session => { session with
    connecting := none
    player := { session.player with transfer := none } }
  closePending
  closeBackend
  fallBack target (.transferFailed target.name message) message

/-- Where the player is going: the target of the transfer, or else the server it is
logging in to, or else the one it is being connected to. -/
def destination (session : Session) : Option Server :=
  (session.player.transfer.map Transfer.target).orElse fun _ =>
    (session.pending.map fun pending => pending.arrival.target).orElse fun _ =>
      session.connecting.map Connecting.server

/-- Gives up whatever takes the player to another server. -/
def failTransfer (message : String) : Work Unit := do
  let session ← Work.session
  match destination session with
  | some target => abandonTransfer target message
  | none => pure ()

/-- The backend is gone, or has sent the player away with a message. -/
def loseBackend (message : Option String) : Work Unit := do
  let session ← Work.session
  match session.backend with
  | none => pure ()
  | some backend =>
    closeBackend
    let arriving := session.player.transfer.filter fun transfer => !transfer.isLocked
    match arriving with
    | some transfer => abandonTransfer transfer.target (message.getD connectionClosed)
    | none =>
      let moving := session.player.transfer.isSome || session.pending.isSome ||
        session.connecting.isSome
      if !moving then
        let name := backend.server.name
        let reason : Farewell := match message with
          | some message => .backendKicked name message
          | none => .backendClosed name
        fallBack backend.server reason (message.getD "")

/-- A new backend has spawned the player: the client leaves the old one, whose queue is
stopped. -/
def startTransfer (teardown : List Packet) : Work Unit := do
  let session ← Work.session
  match session.player.transfer with
  | none => pure ()
  | some transfer =>
    let packets := teardown ++ session.player.departurePackets transfer
    update fun session => { session with
      player := { session.player with dimension := transfer.temporaryDimension }
      backend := session.backend.map fun backend =>
        { backend with peer := { backend.peer with queue := backend.peer.queue.deactivate } } }
    tell [.packsRebuilt]
    toClient fun peer => peer.sendNow packets

/-- The client has left the old backend: the new one takes its place, and what it has sent
meanwhile goes to the client. -/
def finishDeparture (transfer : Transfer) : Work Unit := do
  let session ← Work.session
  match session.pending with
  | none =>
    updatePlayer fun player => { player with transfer := some transfer }
    failTransfer connectionClosed
  | some pending =>
    let player := { session.player with dimension := transfer.targetDimension }
    let packets := player.arrivalPackets transfer
    let (released, waiting) := transfer.waiting.release
    update fun session => { session with
      player := { player with transfer := some { transfer with waiting := waiting } }
      pending := none
      backend := some ⟨pending.arrival.target, pending.peer⟩ }
    toClient fun peer => peer.sendNow packets
    toClient fun peer => peer.writeAll released

/-- The client has arrived at the new backend, which is told so if it is still there. -/
def finishArrival (transfer : Transfer) : Work Unit := do
  updatePlayer fun player => { player with transfer := none }
  toClient fun peer => peer.sendNow Player.completionPackets
  let session ← Work.session
  match session.backend.filter fun backend => !backend.peer.connection.severed with
  | none => abandonTransfer transfer.target connectionClosed
  | some _ =>
    toBackend fun peer => peer.sendNow [session.player.initializedPacket]
    tell (transfer.source.toList.map fun source => .transferred source transfer.target)

/-- The client has acknowledged a change of dimension. -/
def acknowledge : Work Unit := do
  let session ← Work.session
  match session.player.transfer.map Transfer.acknowledge with
  | none => pure ()
  | some (.departed, transfer) => finishDeparture transfer
  | some (.arrived, transfer) => finishArrival transfer
  | some (.ignored, _) => updatePlayer fun player => { player with transfer := none }

end Ferry.Work
