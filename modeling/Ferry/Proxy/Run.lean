import Ferry.Proxy.Basic

/-!
# The proxy

The proxy numbers the clients that connect to it and serves each as a visitor of its own.
`Proxy.handle` takes in one thing that the network or the clock reports, and answers with
what the network is to do. The other operations are for whoever gives orders to sessions.
-/

namespace Ferry

/-- What the network or the clock reports. -/
inductive NetworkEvent where
  /-- A client has connected. -/
  | accepted (stream : Nat)
  | received (stream : Nat) (bytes : Bytes)
  /-- The other end of a stream has said its last. -/
  | ended (stream : Nat)
  /-- A stream cannot be written to any more. -/
  | severed (stream : Nat)
  /-- A server that was called is reached, on a new stream. -/
  | reached (visitor : SessionId) (attempt : Nat) (stream : Nat)
  | unreachable (visitor : SessionId) (attempt : Nat) (cause : String)
  /-- It is time to flush what is queued. -/
  | tick

/-- The proxy with all its visitors. -/
structure Proxy where
  settings : ProxySettings
  /-- The number of the next visitor. -/
  nextId : UInt64
  /-- Those who are still there, in the order in which they came. -/
  visitors : List Visitor

namespace Proxy

/-- What an operator reads where the proxy cannot listen. -/
def bindFailure (address : String) : String := s!"failed to bind {address}"

/-- A proxy that nobody has connected to. -/
def start (settings : ProxySettings) : Proxy := ⟨settings, 1, []⟩

/-- Serves a visitor after a change, and forgets those that are gone. -/
def serve (proxy : Proxy) (change : Visitor → Visitor × List Effect) :
    List Visitor → List Visitor × List Effect
  | [] => ([], [])
  | visitor :: visitors =>
    let (visitor, effects) := change visitor
    let (visitor, more) := visitor.run proxy.settings
    let (visitors, rest) := proxy.serve change visitors
    (match visitor.stage with
      | .gone => visitors
      | _ => visitor :: visitors, effects ++ more ++ rest)

/-- Changes every visitor. -/
def each (proxy : Proxy) (change : Visitor → Visitor × List Effect) : Proxy × List Effect :=
  let (visitors, effects) := proxy.serve change proxy.visitors
  ({ proxy with visitors := visitors }, effects)

/-- Changes one of the streams, whoever it belongs to. -/
def onStream (proxy : Proxy) (number : Nat) (change : Stream → Stream) : Proxy × List Effect :=
  proxy.each fun visitor =>
    match visitor.streams.lookup number with
    | some stream => (visitor.setStream number (change stream), [])
    | none => (visitor, [])

/-- Changes the visitor with a call that is under way. -/
def onCall (proxy : Proxy) (id : SessionId) (attempt : Nat)
    (change : Visitor → Session → Call → Visitor × List Effect) : Proxy × List Effect :=
  proxy.each fun visitor =>
    match visitor.session?, visitor.calls.find? fun call => call.attempt = attempt with
    | some session, some call =>
      if visitor.id = id then change visitor session call else (visitor, [])
    | _, _ => (visitor, [])

/-- Takes in what the network or the clock reports. A stream to a server that nobody waits
for any more is closed at once. -/
def handle (proxy : Proxy) : NetworkEvent → Proxy × List Effect
  | .accepted stream =>
    let visitor := Visitor.start ⟨proxy.nextId⟩ stream
    ({ proxy with nextId := proxy.nextId + 1, visitors := proxy.visitors ++ [visitor] }, [])
  | .received stream bytes => proxy.onStream stream fun stream => stream.receive bytes
  | .ended stream => proxy.onStream stream fun stream => { stream with ended := true }
  | .severed stream => proxy.onStream stream fun stream => { stream with writer := ⟨true⟩ }
  | .reached id attempt stream =>
    let (next, effects) := proxy.onCall id attempt fun visitor session _ =>
      visitor.reach session attempt stream
    let awaited := proxy.visitors.any fun visitor =>
      visitor.id = id && visitor.calls.any fun call => call.attempt = attempt
    (next, if awaited then effects else effects ++ [.close stream])
  | .unreachable id attempt cause =>
    proxy.onCall id attempt fun visitor session call =>
      visitor.endCall session attempt (.error (.unreachable call.server.name cause))
  | .tick => proxy.each fun visitor =>
    match visitor.session? with
    | some session => visitor.handle session .tick
    | none => (visitor, [])

/-! ## Orders -/

/-- The sessions, by number. -/
def sessions (proxy : Proxy) : List SessionId :=
  (proxy.visitors.filter fun visitor => visitor.session?.isSome).map Visitor.id

/-- Gives an order to a session, if there is such a session. -/
def order (proxy : Proxy) (id : SessionId) (event : Event) : Bool × Proxy × List Effect :=
  (proxy.sessions.contains id,
    proxy.each fun visitor =>
      if visitor.id = id && visitor.session?.isSome then
        ({ visitor with orders := visitor.orders ++ [event] }, [])
      else (visitor, []))

/-- Moves a player to another server. -/
def transfer (proxy : Proxy) (id : SessionId) (server : Server) : Bool × Proxy × List Effect :=
  proxy.order id (.transfer server)

/-- Sends all players away. -/
def disconnectAll (proxy : Proxy) (reason : Farewell) : Proxy × List Effect :=
  proxy.each fun visitor =>
    match visitor.session? with
    | some _ => ({ visitor with orders := visitor.orders ++ [.disconnect reason] }, [])
    | none => (visitor, [])

/-- Queues a packet for a client, if there is such a session. -/
def push (proxy : Proxy) (id : SessionId) (packet : Packet) :
    Option (Except QueueOverflow Unit) × Proxy × List Effect :=
  let session := (proxy.visitors.find? fun visitor => visitor.id = id) >>= Visitor.session?
  (session.map fun session => (session.push packet).1,
    proxy.each fun visitor =>
      match visitor.session? with
      | some session =>
        if visitor.id = id then
          let (_, session, outputs) := session.push packet
          visitor.withSession session outputs
        else (visitor, [])
      | none => (visitor, []))

end Proxy

end Ferry
