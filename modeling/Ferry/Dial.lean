import Ferry.Handshake.Backend
import Ferry.Server

/-!
# Calling a backend

To connect a player to a server, a stream to its address is opened, and the handshake is
held on it in the version of the player.
-/

namespace Ferry

/-- Why a player is not connected to a server. -/
inductive DialError where
  /-- The address cannot be reached. -/
  | unreachable (server : String) (cause : String)
  | unsupportedVersion
  | handshake (cause : HandshakeError)
  deriving DecidableEq, Repr

/-- The wording of a failed call and, behind it, of what caused it. -/
def DialError.message : DialError → String
  | .unreachable server cause => s!"failed to connect to {server}: {cause}"
  | .unsupportedVersion => "unsupported protocol version"
  | .handshake cause => cause.message

namespace Dial

/-- Begins the handshake once the stream is open. -/
def start (login : LoginData) : Except DialError (HandshakeTurn Unit Unit) :=
  match Version.ofNumber? login.protocolVersion with
  | none => .error .unsupportedVersion
  | some version => .ok (BackendHandshake.start login ⟨FrameCodec.ofVersion version, false⟩)

end Dial

end Ferry
