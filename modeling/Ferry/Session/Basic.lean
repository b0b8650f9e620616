import Ferry.Bridge
import Ferry.Connection
import Ferry.Farewell
import Ferry.Handler.Arrival
import Ferry.Handshake.Basic
import Ferry.Queue

/-!
# Sessions

A session is one player: the connection to the client, the connection to the backend that
the player is on, and, while the player is being moved, the backend that it is moving to. A
session takes in one event at a time and answers with outputs: what it writes, whom it
calls, and what it reports. The links themselves are elsewhere; a link that no part of the
session holds is closed.
-/

namespace Ferry

/-- One of a session's links. Links to backends are numbered. -/
inductive LinkId where
  | client
  | backend (number : Nat)
  deriving DecidableEq, Repr

/-- What a session does to the world outside. -/
inductive Output where
  /-- A batch is written to a link, in this frame. -/
  | written (link : LinkId) (batch : Batch) (frame : Bytes)
  /-- A connection to a server is called for. -/
  | dialed (attempt : Nat) (server : Server)
  /-- Another server was looked for in place of a lost one. -/
  | soughtFallback (lost : Server) (found : Option Server)
  /-- The client is about to take over the resource packs of another backend. -/
  | packsRebuilt
  /-- A transfer is complete. -/
  | transferred (source target : Server)
  | counted (observation : Observation)

/-- What ends a session when it happens. -/
inductive SessionError where
  | overflow (cause : QueueOverflow)
  | connection (cause : ConnectionError)
  deriving DecidableEq, Repr

/-- Why a session ends. -/
inductive Exit where
  /-- The client is told so. -/
  | farewell (reason : Farewell)
  | clientGone
  deriving DecidableEq, Repr

/-- A connection and the queue in front of it. -/
structure Peer where
  link : LinkId
  connection : Connection
  queue : OutboundQueue
  deriving DecidableEq, Repr

/-- The backend that the player is on. -/
structure Backend where
  server : Server
  peer : Peer

/-- A backend that the player is moving to. -/
structure PendingBackend where
  peer : Peer
  arrival : Arrival

/-- A connection that has been called for. -/
structure Connecting where
  attempt : Nat
  server : Server
  /-- The server that the player leaves, unless it was lost. -/
  source : Option Server

/-- What is given to a session from outside. -/
structure SessionServices where
  queueLimits : QueueLimits
  waitingLimits : WaitingLimits
  /-- Where the player goes when a server is lost, for a reason and with a message. -/
  fallback : Server → Farewell → String → Option Server

/-- How far a session has got. -/
inductive SessionStage where
  /-- Its first backend has been called for. -/
  | joining (server : Server)
  | playing
  | over

/-- A player's session. -/
structure Session where
  login : LoginData
  services : SessionServices
  stage : SessionStage
  client : Peer
  backend : Option Backend
  pending : Option PendingBackend
  connecting : Option Connecting
  player : Player
  /-- How many connections have been called for. -/
  attempts : Nat
  /-- Set as soon as it is clear that the session ends. -/
  exit : Option Exit

/-- What happens to a session. -/
inductive Event where
  /-- A frame from the client, or the end of its link. -/
  | client (frame : Option Bytes)
  /-- A frame from the backend, or the end of its link. -/
  | backend (frame : Option Bytes)
  /-- A frame from the backend that the player is moving to, or the end of its link. -/
  | pending (frame : Option Bytes)
  /-- A connection that was called for is there, on a link of its own, or it is not to be
  had. -/
  | connected (attempt : Nat) (result : Except String (Nat × Connection))
  /-- It is time to flush what is queued. -/
  | tick
  /-- Somebody wants the player to be on another server. -/
  | transfer (server : Server)
  /-- Somebody wants the session to end. -/
  | disconnect (reason : Farewell)
  /-- The other end of a link is gone. What it has sent may still be on its way. -/
  | severed (link : LinkId)

namespace Session

/-- A session whose client has logged in. It calls for its first backend at once. -/
def start (login : LoginData) (services : SessionServices) (client : Connection)
    (initial : Server) : Session × List Output :=
  ({ login := login
     services := services
     stage := .joining initial
     client := ⟨.client, client, OutboundQueue.empty services.queueLimits⟩
     backend := none
     pending := none
     connecting := none
     player := Player.start login.clientIds
     attempts := 1
     exit := none },
    [.dialed 0 initial])

/-- A connection to a backend, with a queue of its own. -/
def backendPeer (session : Session) (number : Nat) (connection : Connection) : Peer :=
  ⟨.backend number, connection, OutboundQueue.empty session.services.queueLimits⟩

/-- The links that the session holds. -/
def links (session : Session) : List LinkId :=
  let client := match session.stage with
    | .over => []
    | _ => [session.client.link]
  client ++ (session.backend.map fun backend => backend.peer.link).toList ++
    (session.pending.map fun pending => pending.peer.link).toList

/-- The attempt at a connection that the session waits for. -/
def awaited (session : Session) : Option Nat :=
  match session.stage with
  | .joining _ => some 0
  | _ => session.connecting.map Connecting.attempt

/-- Queues a packet for the client, to be sent with the next tick. -/
def push (session : Session) (packet : Packet) :
    Except QueueOverflow Unit × Session × List Output :=
  let (result, queue, counted) := session.client.queue.push (BatchPacket.made packet)
  (result, { session with client := { session.client with queue := queue } },
    counted.map Output.counted)

end Session

end Ferry
