import Ferry.Connection
import Ferry.Mapping

/-!
# Handshakes

Before a game begins, the two ends of a connection agree on the version and the compression
of what follows, and the client says who it is. A handshake is a machine that takes in one
frame at a time, and says what is to be sent and how far it has got.
-/

namespace Ferry

/-- The number of a session. -/
structure SessionId where
  number : UInt64
  deriving DecidableEq, Repr

instance : ToString SessionId where
  toString id := s!"#{id.number.toNat}"

/-- All that a backend needs to log the player in. -/
structure LoginData where
  session : SessionId
  protocolVersion : UInt32
  /-- Sent on to every backend as it came. -/
  login : Login
  /-- The ids that the client is to know itself by; without them it takes those of its
  first backend. -/
  clientIds : Option PlayerIds
  deriving DecidableEq, Repr

/-- Why a handshake failed. -/
inductive HandshakeError where
  | connection (cause : ConnectionError)
  /-- Another packet came than the one expected. -/
  | unexpected (expected got : String)
  | unsupportedVersion (version : Int)
  /-- The client has asked for one version and logs in with another. -/
  | versionChanged (announced requested : Int32)
  /-- The backend does not take the player. -/
  | refused (message : String)
  | unknownAlgorithm (id : UInt16)
  deriving DecidableEq, Repr

/-- The wording of a handshake error. -/
def HandshakeError.message : HandshakeError → String
  | .connection cause => cause.message
  | .unexpected expected got => s!"expected {expected}, got {got}"
  | .unsupportedVersion version => s!"unsupported protocol version {version}"
  | .versionChanged announced requested =>
    s!"login announced protocol {announced.toInt} after requesting {requested.toInt}"
  | .refused message => s!"refused: {message}"
  | .unknownAlgorithm id => s!"unknown compression algorithm {id.toNat}"

/-- How far a handshake has got. -/
inductive HandshakeProgress (σ α : Type) where
  /-- It waits for a frame. -/
  | waiting (stage : σ)
  | done (result : Except HandshakeError α)

/-- What a frame leads to in a handshake. -/
structure HandshakeTurn (σ α : Type) where
  progress : HandshakeProgress σ α
  connection : Connection
  /-- The frames to be sent. -/
  sent : List Bytes
  counted : List Observation

namespace HandshakeTurn

variable {σ α : Type}

/-- The handshake ends. -/
def finish (result : Except HandshakeError α) (connection : Connection)
    (counted : List Observation) : HandshakeTurn σ α :=
  ⟨.done result, connection, [], counted⟩

/-- Sends packets and goes on, unless nobody is left to send them to. -/
def sending (connection : Connection) (counted : List Observation) (packets : List Packet)
    (compressor : Compressor) (next : Connection → HandshakeProgress σ α × Connection) :
    HandshakeTurn σ α :=
  let (frame, connection, more) := connection.send (Batch.made packets) compressor
  match frame with
  | .error fault => finish (.error (.connection fault)) connection (counted ++ more)
  | .ok frame =>
    let (progress, connection) := next connection
    ⟨progress, connection, [frame], counted ++ more⟩

end HandshakeTurn

end Ferry
