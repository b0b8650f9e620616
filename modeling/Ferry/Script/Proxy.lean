import Ferry.Proxy.Run
import Ferry.Script.Stream

/-!
# Scripts of the whole proxy

The script plays the clients and the backends, which it knows by names. After every step
the proxy takes in all that there is for it to take in, and its clock ticks once.
-/

namespace Ferry.Script

/-- The other end of one of the proxy's streams. -/
structure FarStream where
  number : Nat
  codec : FrameCodec
  reader : FrameReader
  /-- Frames that the script has not looked at yet. -/
  arrived : List Bytes
  /-- Whether the proxy has closed the stream. -/
  closed : Bool
  /-- Whether the script has. -/
  gone : Bool
  /-- The server that the proxy has called, until the script takes the call. -/
  calls : Option String

namespace FarStream

/-- A new stream. -/
def start (number : Nat) (calls : Option String) : FarStream :=
  ⟨number, FrameCodec.ofVersion Version.latest, FrameReader.start, [], false, false, calls⟩

/-- Takes in what the proxy has written. -/
def receive (far : FarStream) (bytes : Bytes) : FarStream :=
  let (frames, reader) := far.reader.receive bytes
  { far with reader := reader, arrived := far.arrived ++ frames }

/-- Shows the next frame, or that the proxy has closed the stream. -/
def show? (far : FarStream) : Json × FarStream :=
  match far.arrived with
  | frame :: frames =>
    let (shown, codec) := frameDocument far.codec frame
    (shown, { far with codec := codec, arrived := frames })
  | [] => (if far.closed then view "closed" else .null, far)

end FarStream

/-- The proxy and everything around it. -/
structure Harbour where
  proxy : Proxy
  servers : List Server
  /-- The names of servers that nobody listens for. -/
  dead : List String
  streams : List FarStream
  /-- What the script calls the streams. -/
  names : List (String × Nat)
  /-- What the proxy has not heard of yet. -/
  events : List NetworkEvent

namespace Harbour

/-- Opens a stream. -/
def openStream (harbour : Harbour) (calls : Option String) : Nat × Harbour :=
  let number := harbour.streams.length
  (number, { harbour with streams := harbour.streams ++ [FarStream.start number calls] })

/-- Adds something for the proxy to hear of. -/
def report (harbour : Harbour) (event : NetworkEvent) : Harbour :=
  { harbour with events := harbour.events ++ [event] }

/-- Does what the proxy asks for. -/
def perform (harbour : Harbour) : Effect → Harbour
  | .write number bytes =>
    match harbour.streams[number]? with
    | some far =>
      if far.gone then harbour.report (.severed number)
      else { harbour with streams := harbour.streams.set number (far.receive bytes) }
    | none => harbour
  | .close number =>
    { harbour with
      streams := harbour.streams.modify number fun far => { far with closed := true } }
  | .call visitor attempt server =>
    if harbour.dead.contains server.name then
      harbour.report (.unreachable visitor attempt "refused")
    else
      let (number, harbour) := harbour.openStream (some server.name)
      harbour.report (.reached visitor attempt number)

/-- Takes over the proxy after a turn. -/
def adopt (harbour : Harbour) (turn : Proxy × List Effect) : Harbour :=
  turn.2.foldl perform { harbour with proxy := turn.1 }

/-- Lets the proxy take in all that there is, up to a number of events. -/
def settle : (fuel : Nat) → Harbour → Harbour
  | 0, harbour => harbour
  | fuel + 1, harbour =>
    match harbour.events with
    | [] => harbour
    | event :: events =>
      let harbour := { harbour with events := events }
      settle fuel (harbour.adopt (harbour.proxy.handle event))

/-- How many events the proxy is given at most between two steps. -/
def patience : Nat := 10000

/-- The stream that a step is about. -/
def streamOf (harbour : Harbour) (request : Json) : Option FarStream := do
  harbour.streams[← harbour.names.lookup (← request.get? "at")]?

/-- Gives a stream the name that a step has for it. -/
def name (harbour : Harbour) (request : Json) (number : Nat) : Option Harbour := do
  let name : String ← request.get? "at"
  some { harbour with names := (name, number) :: harbour.names }

/-- Sends bytes to the proxy. -/
def sendBytes (harbour : Harbour) (far : FarStream) (bytes : Bytes) : Harbour :=
  { harbour with streams := harbour.streams.set far.number far }.report
    (.received far.number bytes)

/-- Takes the next call to a server. -/
def accept (harbour : Harbour) (request : Json) : Option (Json × Harbour) := do
  let server : String ← request.get? "server"
  match harbour.streams.find? fun far => far.calls = some server with
  | none => some (.null, harbour)
  | some far =>
    let taken := { far with calls := none }
    let harbour ← harbour.name request far.number
    some (view true, { harbour with streams := harbour.streams.set far.number taken })

/-- The codec that a step gives an end. -/
def codecOf (request : Json) : Option FrameCodec := do
  some ⟨← versionOf request, ← request.getOr "strategy" .disabled, none⟩

/-- The session that a step is about. -/
def sessionOf (request : Json) : Option SessionId := request.get? "id"

/-- Carries out one step without letting the proxy run. -/
def act (version : Version) (harbour : Harbour) (request : Json) : Option (Json × Harbour) := do
  let proxy := harbour.proxy
  match ← request.get? "do" with
  | "connect" => do
    let (number, harbour) := harbour.openStream none
    some (.null, (← harbour.name request number).report (.accepted number))
  | "accept" => harbour.accept request
  | "codec" => do
    let far := { ← harbour.streamOf request with codec := ← codecOf request }
    some (.null, { harbour with streams := harbour.streams.set far.number far })
  | "send" => do
    let far ← harbour.streamOf request
    let (frame, codec, _) := far.codec.encode (← rawBatch request)
    some (.null, harbour.sendBytes { far with codec := codec } ((announce? frame).getD []))
  | "frame" => do
    let frame : Bytes ← request.get? "frame"
    some (.null, harbour.sendBytes (← harbour.streamOf request) ((announce? frame).getD []))
  | "bytes" => do
    some (.null, harbour.sendBytes (← harbour.streamOf request) (← request.get? "bytes"))
  | "close" => do
    let far := { ← harbour.streamOf request with gone := true }
    some (.null, { harbour with streams := harbour.streams.set far.number far }.report
      (.ended far.number))
  | "recv" => do
    let (shown, far) := (← harbour.streamOf request).show?
    some (shown, { harbour with streams := harbour.streams.set far.number far })
  | "sessions" => do
    let count : Nat ← request.get? "len"
    let ids := proxy.sessions
    some (.array [view (decide (ids.length = count)), view ids.isEmpty,
      view (ids.map SessionId.number)], harbour)
  | "has" => do
    let open_ := proxy.sessions.contains (← sessionOf request)
    some (if open_ then view false else .null, harbour)
  | "transfer" => do
    let server ← Server.named? harbour.servers (← request.get? "server")
    let (taken, turn) := proxy.transfer (← sessionOf request) server
    some (view taken, harbour.adopt turn)
  | "disconnect_all" => do
    some (.null, harbour.adopt (proxy.disconnectAll (← farewellOf request)))
  | "push" => do
    let packet : RawPacket ← request.get? "packet"
    match packet.toBatchPacket.decode version with
    | .error fault => some (view fault, harbour)
    | .ok packet =>
      let (result, turn) := proxy.push (← sessionOf request) packet
      some (view (result.map Except.isOk), harbour.adopt turn)
  | "bind_again" => some (failure "Error" (Proxy.bindFailure "<address>"), harbour)
  | _ => none

/-- Carries out one step and lets the proxy run. -/
def step (version : Version) (harbour : Harbour) (request : Json) : Option (Json × Harbour) := do
  let (result, harbour) ← harbour.act version request
  some (result, settle patience ((settle patience harbour).report .tick))

end Harbour

/-- Carries out a script about the proxy. -/
def proxy (request : Json) : Option Json := do
  let servers ← Servers.ofDocument? request
  let descriptions : List Json ← request.get? "servers"
  let dead ← descriptions.filterMapM fun server => do
    let dead ← server.getOr "dead" false
    let name : String ← server.get? "name"
    some (if dead then some name else none)
  let names : List String ← request.getOr "fallback" []
  let fallback ← names.mapM (Server.named? servers)
  let services : SessionServices :=
    ⟨← request.getOr "queue" QueueLimits.default,
      ← request.getOr "transfer_queue" WaitingLimits.default,
      fun lost _ _ => Server.fallback? fallback lost⟩
  let settings : ProxySettings := ⟨services,
    ← request.getOr "compression" CompressionSettings.default,
    ← Server.named? servers (← request.get? "initial")⟩
  let harbour : Harbour := ⟨Proxy.start settings, servers, dead, [], [], []⟩
  let (answers, _) ← steps (Harbour.step (← versionOf request)) harbour (← request.get? "steps")
  some (.array answers)

end Ferry.Script
