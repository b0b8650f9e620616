import Ferry.Handshake.Basic

/-!
# The handshake with a backend

The proxy asks for the network settings of the client's version, takes over the compression
that the backend tells it, and sends the client's login on.
-/

namespace Ferry.BackendHandshake

/-- Begins the handshake. -/
def start (login : LoginData) (connection : Connection) (compressor : Compressor := .plain) :
    HandshakeTurn Unit Unit :=
  match Version.ofNumber? login.protocolVersion with
  | none =>
    let version : Int := login.protocolVersion.toNat
    .finish (.error (.unsupportedVersion version)) connection []
  | some version =>
    let request := Packet.requestNetworkSettings ⟨login.protocolVersion.toInt32⟩
    HandshakeTurn.sending (connection.withVersion version) [] [request] compressor
      fun connection => (.waiting (), connection)

/-- Answers the settings of the backend. -/
def onSettings (login : LoginData) (connection : Connection) (counted : List Observation)
    (settings : NetworkSettings) (compressor : Compressor := .plain) : HandshakeTurn Unit Unit :=
  match Algorithm.ofNetworkId? settings.compressionAlgorithm with
  | none =>
    .finish (.error (.unknownAlgorithm settings.compressionAlgorithm)) connection counted
  | some algorithm =>
    let agreed := connection.withCompression algorithm settings.compressionThreshold.toNat
    HandshakeTurn.sending agreed counted [.login login.login] compressor fun connection =>
      (.done (.ok ()), connection)

/-- Takes in a frame, or the end of the link. -/
def receive (login : LoginData) (connection : Connection) (frame : Option Bytes)
    (compressor : Compressor := .plain) : HandshakeTurn Unit Unit :=
  let (packet, connection, counted) := connection.receiveFirst frame
  match packet with
  | .error fault => .finish (.error (.connection fault)) connection counted
  | .ok (.networkSettings settings) => onSettings login connection counted settings compressor
  | .ok (.disconnect disconnect) =>
    .finish (.error (.refused disconnect.message)) connection counted
  | .ok other => .finish (.error (.unexpected "network settings" other.name)) connection counted

end Ferry.BackendHandshake
