import Ferry.Farewell
import Ferry.Handshake.Basic

/-!
# The handshake with a client

The client asks for the network settings and thereby announces its version, is told them,
and logs in. From the settings on, both ends compress what they send. A client of an
unsupported version is told so and sent away.
-/

namespace Ferry

/-- What the client is to send next. -/
inductive ClientStage where
  | request
  /-- A login of the version that was announced. -/
  | login (version : Int32) (supported : Version)
  deriving DecidableEq, Repr

namespace ClientHandshake

/-- Tells a client of an unsupported version which end is too old. -/
def versionStatus (version : Int32) : PlayStatus :=
  let oldest : Int := (Version.supported.head?.map fun first => first.number.toNat).getD 0
  ⟨if version.toInt < oldest then PlayStatus.outdatedClient else PlayStatus.outdatedServer⟩

/-- The settings that a client is told. -/
def settingsPacket (settings : CompressionSettings) : Packet :=
  .networkSettings ⟨settings.threshold, settings.algorithm.networkId, false, 0, .zero⟩

/-- Answers the announcement of a version. -/
def onRequest (settings : CompressionSettings) (connection : Connection)
    (counted : List Observation) (version : Int32) (compressor : Compressor := .plain) :
    HandshakeTurn ClientStage LoginData :=
  match Version.ofNumber? version.toUInt32 with
  | none =>
    let packets := [.playStatus (versionStatus version),
      .disconnect (Farewell.unsupportedVersion version).packet]
    HandshakeTurn.sending connection counted packets compressor fun connection =>
      (.done (.error (.unsupportedVersion version.toInt)), connection)
  | some supported =>
    HandshakeTurn.sending (connection.withVersion supported) counted [settingsPacket settings]
      compressor fun connection =>
        (.waiting (.login version supported),
          connection.withCompression settings.algorithm settings.threshold.toNat)

/-- What the login of a client comes to. -/
def onLogin (session : SessionId) (version : Int32) (supported : Version) (login : Login) :
    Except HandshakeError LoginData :=
  if login.protocolVersion = version then .ok ⟨session, supported.number, login, none⟩
  else .error (.versionChanged login.protocolVersion version)

/-- Takes in a frame, or the end of the link. -/
def receive (session : SessionId) (settings : CompressionSettings) (stage : ClientStage)
    (connection : Connection) (frame : Option Bytes) (compressor : Compressor := .plain) :
    HandshakeTurn ClientStage LoginData :=
  let (packet, connection, counted) := connection.receiveFirst frame
  match stage, packet with
  | _, .error fault => .finish (.error (.connection fault)) connection counted
  | .request, .ok (.requestNetworkSettings request) =>
    onRequest settings connection counted request.protocolVersion compressor
  | .request, .ok other =>
    .finish (.error (.unexpected "network settings request" other.name)) connection counted
  | .login version supported, .ok (.login login) =>
    .finish (onLogin session version supported login) connection counted
  | .login _ _, .ok other =>
    .finish (.error (.unexpected "login" other.name)) connection counted

end ClientHandshake

end Ferry
