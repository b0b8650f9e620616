import Ferry.Dial
import Ferry.Handshake.Client
import Ferry.Session.Run
import Ferry.Stream

/-!
# Visitors of the proxy

A visitor is everything about one client: the stream to it, its handshake and then its
session, the calls to backends that are under way, and the streams to backends. Frames that
arrive before anybody can take them wait in the inbox of their stream; `Visitor.run` hands
them on as long as somebody can. Streams that nobody uses any more are closed.

The network is elsewhere: streams are numbered by whoever opens them, and a visitor says
what is to be written to which one.
-/

namespace Ferry

/-- A stream as the proxy sees it. -/
structure Stream where
  reader : FrameReader
  writer : FrameWriter
  /-- Frames that nobody has taken yet, oldest first. -/
  inbox : List Bytes
  /-- Whether the other end has said its last. -/
  ended : Bool
  deriving DecidableEq, Repr

namespace Stream

/-- A stream that was just opened. -/
def start : Stream := ⟨.start, .start, [], false⟩

/-- Takes in bytes. -/
def receive (stream : Stream) (bytes : Bytes) : Stream :=
  let (frames, reader) := stream.reader.receive bytes
  { stream with
    reader := reader
    inbox := stream.inbox ++ frames
    ended := stream.ended || reader.broken }

/-- The next frame, or the end of the stream. -/
def next? (stream : Stream) : Option (Option Bytes × Stream) :=
  match stream.inbox with
  | frame :: frames => some (some frame, { stream with inbox := frames })
  | [] => if stream.ended then some (none, stream) else none

end Stream

/-- A call to a backend that is under way. -/
structure Call where
  attempt : Nat
  server : Server
  /-- The stream and the connection of the handshake, once the server is reached. -/
  reached : Option (Nat × Connection)

/-- How far a visitor has got. -/
inductive VisitorStage where
  | handshake (stage : ClientStage) (connection : Connection)
  | inSession (session : Session)
  | gone

/-- Everything about one client. -/
structure Visitor where
  id : SessionId
  stage : VisitorStage
  /-- The number of the stream to the client. -/
  client : Nat
  /-- All streams, by number. -/
  streams : List (Nat × Stream)
  calls : List Call
  /-- Orders that the session has not taken yet, oldest first. -/
  orders : List Event

/-- What a visitor asks of the network. -/
inductive Effect where
  | write (stream : Nat) (bytes : Bytes)
  | close (stream : Nat)
  /-- A stream to a server is called for. -/
  | call (visitor : SessionId) (attempt : Nat) (server : Server)

/-- What all visitors have in common. -/
structure ProxySettings where
  services : SessionServices
  /-- What clients are offered. -/
  compression : CompressionSettings
  /-- Where players go first. -/
  initial : Server

namespace Visitor

/-- A client that has just connected. -/
def start (id : SessionId) (client : Nat) : Visitor :=
  { id := id
    stage := .handshake .request ⟨FrameCodec.ofVersion Version.latest, false⟩
    client := client
    streams := [(client, Stream.start)]
    calls := []
    orders := [] }

/-- The session, once there is one. -/
def session? (visitor : Visitor) : Option Session :=
  match visitor.stage with
  | .inSession session => some session
  | _ => none

/-- Changes one of the streams. -/
def setStream (visitor : Visitor) (number : Nat) (stream : Stream) : Visitor :=
  { visitor with streams := visitor.streams.map fun (other, held) =>
      (other, if other = number then stream else held) }

/-- The next frame of a stream, or its end. -/
def nextOf? (visitor : Visitor) (number : Nat) : Option (Option Bytes × Visitor) := do
  let (frame, stream) ← (← visitor.streams.lookup number).next?
  some (frame, visitor.setStream number stream)

/-- The stream of a link of the session. -/
def streamOf (visitor : Visitor) : LinkId → Nat
  | .client => visitor.client
  | .backend number => number

/-- The streams that are still in use. -/
def used (visitor : Visitor) : List Nat :=
  let calling := visitor.calls.filterMap fun call => call.reached.map Prod.fst
  match visitor.stage with
  | .handshake _ _ => [visitor.client]
  | .inSession session => session.links.map visitor.streamOf ++ calling
  | .gone => []

/-- Sends frames on a stream. -/
def write (visitor : Visitor) (number : Nat) (frames : List Bytes) : Visitor × List Effect :=
  match visitor.streams.lookup number with
  | none => (visitor, [])
  | some stream =>
    let (_, written, writer) := stream.writer.sendAll frames
    (visitor.setStream number { stream with writer := writer },
      if written.isEmpty then [] else [.write number written])

/-- What an output of the session leads to. -/
def react (turn : Visitor × List Effect) : Output → Visitor × List Effect
  | .written link _ frame =>
    let (visitor, effects) := turn.1.write (turn.1.streamOf link) [frame]
    (visitor, turn.2 ++ effects)
  | .dialed attempt server =>
    let visitor := turn.1
    ({ visitor with calls := visitor.calls ++ [⟨attempt, server, none⟩] },
      turn.2 ++ [.call visitor.id attempt server])
  | _ => turn

/-- Takes over a session and what it has put out. -/
def withSession (visitor : Visitor) (session : Session) (outputs : List Output) :
    Visitor × List Effect :=
  let (visitor, effects) := outputs.foldl react (visitor, [])
  let stage := match session.stage with
    | .over => .gone
    | _ => .inSession session
  let calls := visitor.calls.filter fun call => session.awaited = some call.attempt
  ({ visitor with stage := stage, calls := calls }, effects)

/-- Lets the session take in an event. -/
def handle (visitor : Visitor) (session : Session) (event : Event) : Visitor × List Effect :=
  let (session, outputs) := session.handle event
  visitor.withSession session outputs

/-- Takes in a frame of the client's handshake, and begins its session at the end. -/
def shake (settings : ProxySettings) (visitor : Visitor) (stage : ClientStage)
    (connection : Connection) (frame : Option Bytes) : Visitor × List Effect :=
  let turn := ClientHandshake.receive visitor.id settings.compression stage connection frame
  let (visitor, effects) := visitor.write visitor.client turn.sent
  match turn.progress with
  | .waiting stage => ({ visitor with stage := .handshake stage turn.connection }, effects)
  | .done (.error _) => ({ visitor with stage := .gone }, effects)
  | .done (.ok login) =>
    let (session, outputs) :=
      Session.start login settings.services turn.connection settings.initial
    let (visitor, more) := visitor.withSession session outputs
    (visitor, effects ++ more)

/-- Ends a call, and tells the session how. -/
def endCall (visitor : Visitor) (session : Session) (attempt : Nat)
    (result : Except DialError (Nat × Connection)) : Visitor × List Effect :=
  let calls := visitor.calls.filter fun call => call.attempt ≠ attempt
  { visitor with calls := calls }.handle session
    (.connected attempt (result.mapError DialError.message))

/-- Goes on with the handshake of a call. -/
def goOn (visitor : Visitor) (session : Session) (attempt stream : Nat)
    (turn : HandshakeTurn Unit Unit) : Visitor × List Effect :=
  let (visitor, effects) := visitor.write stream turn.sent
  let (visitor, more) := match turn.progress with
    | .waiting () =>
      ({ visitor with calls := visitor.calls.map fun call =>
          if call.attempt = attempt then { call with reached := some (stream, turn.connection) }
          else call }, [])
    | .done (.ok ()) => visitor.endCall session attempt (.ok (stream, turn.connection))
    | .done (.error cause) => visitor.endCall session attempt (.error (.handshake cause))
  (visitor, effects ++ more)

/-- A server that was called is reached. -/
def reach (visitor : Visitor) (session : Session) (attempt stream : Nat) :
    Visitor × List Effect :=
  let visitor := { visitor with streams := visitor.streams ++ [(stream, Stream.start)] }
  match Dial.start session.login with
  | .error fault => visitor.endCall session attempt (.error fault)
  | .ok turn => visitor.goOn session attempt stream turn

/-- The next frame that a call has to take in. -/
def nextOfCalls? (visitor : Visitor) : Option (Call × Nat × Connection × Option Bytes × Visitor) :=
  visitor.calls.findSome? fun call => do
    let (stream, connection) ← call.reached
    let (frame, visitor) ← visitor.nextOf? stream
    some (call, stream, connection, frame, visitor)

/-- The next event for a session that is playing. -/
def nextEvent? (visitor : Visitor) (session : Session) : Option (Event × Visitor) :=
  let ofPeer (peer : Option Peer) (event : Option Bytes → Event) : Option (Event × Visitor) := do
    let (frame, visitor) ← visitor.nextOf? (visitor.streamOf (← peer).link)
    some (event frame, visitor)
  (ofPeer (some session.client) .client).orElse fun _ =>
    (ofPeer (session.backend.map Backend.peer) .backend).orElse fun _ =>
      (ofPeer (session.pending.map PendingBackend.peer) .pending).orElse fun _ =>
        match visitor.orders with
        | order :: orders => some (order, { visitor with orders := orders })
        | [] => none

/-- Hands on one frame or order, if somebody can take it. -/
def step? (settings : ProxySettings) (visitor : Visitor) : Option (Visitor × List Effect) :=
  match visitor.stage with
  | .gone => none
  | .handshake stage connection => do
    let (frame, visitor) ← visitor.nextOf? visitor.client
    some (visitor.shake settings stage connection frame)
  | .inSession session =>
    let playing := match session.stage with
      | .playing => true
      | _ => false
    match if playing then visitor.nextEvent? session else none with
    | some (event, visitor) => some (visitor.handle session event)
    | none => do
      let (call, stream, connection, frame, visitor) ← visitor.nextOfCalls?
      let turn := BackendHandshake.receive session.login connection frame
      some (visitor.goOn session call.attempt stream turn)

/-- Whether a stream cannot be written to any more. -/
def isSevered (visitor : Visitor) (number : Nat) : Bool :=
  (visitor.streams.lookup number).any fun stream => stream.writer.ended

/-- Tells the ends of connections whose streams cannot be written to any more. -/
def notice (visitor : Visitor) : Visitor :=
  let mark (number : Nat) (connection : Connection) : Connection :=
    { connection with severed := connection.severed || visitor.isSevered number }
  let tell (session : Session) (link : LinkId) : Session :=
    if visitor.isSevered (visitor.streamOf link) then session.sever link else session
  { visitor with
    stage := match visitor.stage with
      | .handshake stage connection => .handshake stage (mark visitor.client connection)
      | .inSession session => .inSession (session.links.foldl tell session)
      | .gone => .gone
    calls := visitor.calls.map fun call => { call with
      reached := call.reached.map fun (number, connection) => (number, mark number connection) } }

/-- Hands on frames and orders as long as somebody can take them, at most `fuel` of them. -/
def steps (settings : ProxySettings) : (fuel : Nat) → Visitor → Visitor × List Effect
  | 0, visitor => (visitor, [])
  | fuel + 1, visitor =>
    match visitor.step? settings with
    | none => (visitor, [])
    | some (visitor, effects) =>
      let (visitor, more) := steps settings fuel visitor.notice
      (visitor, effects ++ more)

/-- How much there is to hand on at most. -/
def load (visitor : Visitor) : Nat :=
  (visitor.streams.flatMap fun (_, stream) => stream.inbox).length + visitor.streams.length +
    visitor.orders.length

/-- Closes the streams that are not in use any more. -/
def sweep (visitor : Visitor) : Visitor × List Effect :=
  let used := visitor.used
  let (kept, dropped) := visitor.streams.partition fun (number, _) => used.contains number
  ({ visitor with streams := kept }, dropped.map fun (number, _) => .close number)

/-- Hands on all that there is to hand on, and closes what is not in use any more. -/
def run (settings : ProxySettings) (visitor : Visitor) : Visitor × List Effect :=
  let (visitor, effects) := visitor.notice.steps settings visitor.load
  let (visitor, more) := visitor.sweep
  (visitor, effects ++ more)

end Visitor

end Ferry
