import Ferry.Position
import Ferry.Version

/-!
# Packets of the login

The first three packets of a connection announce the protocol version in
big-endian order, since they are read before the version is known. Resource packs
are acknowledged without looking at them.
-/

namespace Ferry

/-- Asks for the compression settings; the first packet of a connection. -/
structure RequestNetworkSettings where
  protocolVersion : Int32
  deriving DecidableEq, Repr

/-- The number of the version, the most significant byte first. -/
def RequestNetworkSettings.layout : Layout RequestNetworkSettings :=
  Layout.int32BigEndian.convert
    RequestNetworkSettings.mk RequestNetworkSettings.protocolVersion

/-- Answers with the compression settings. -/
structure NetworkSettings where
  compressionThreshold : UInt16
  compressionAlgorithm : UInt16
  clientThrottle : Bool
  clientThrottleThreshold : UInt8
  clientThrottleScalar : Single
  deriving DecidableEq, Repr

/-- What is compressed and how, and then how clients are throttled. -/
def NetworkSettings.layout : Layout NetworkSettings :=
  (Layout.uint16.pair (Layout.uint16.pair (Layout.bool.pair
    (Layout.byte.pair Layout.single)))).convert
    (fun (threshold, algorithm, throttle, throttleThreshold, scalar) =>
      ⟨threshold, algorithm, throttle, throttleThreshold, scalar⟩)
    (fun settings => (settings.compressionThreshold, settings.compressionAlgorithm,
      settings.clientThrottle, settings.clientThrottleThreshold, settings.clientThrottleScalar))

/-- Who the client is. -/
structure Login where
  protocolVersion : Int32
  /-- Certificates and client data, uninterpreted. -/
  connectionRequest : Bytes
  deriving DecidableEq, Repr, Inhabited

/-- The number of the version, the most significant byte first, and the request. -/
def Login.layout : Layout Login :=
  (Layout.int32BigEndian.pair Layout.byteArray).convert
    (fun (version, request) => ⟨version, request⟩)
    (fun login => (login.protocolVersion, login.connectionRequest))

/-- How far the login got. -/
structure PlayStatus where
  status : Int32
  deriving DecidableEq, Repr

namespace PlayStatus

/-- The status, the most significant byte first. -/
def layout : Layout PlayStatus :=
  Layout.int32BigEndian.convert PlayStatus.mk PlayStatus.status

/-- The login was accepted. -/
def loginSuccess : Int32 := 0

/-- The client is too old. -/
def outdatedClient : Int32 := 1

/-- The server is too old. -/
def outdatedServer : Int32 := 2

/-- The player may spawn. -/
def playerSpawn : Int32 := 3

/-- Whether the login has failed. -/
def isFailure (packet : PlayStatus) : Bool :=
  packet.status ≠ loginSuccess && packet.status ≠ playerSpawn

end PlayStatus

/-- Ends the connection, with a text for the player unless the screen is hidden. -/
structure Disconnect where
  reason : Int32
  hideScreen : Bool
  message : String
  filteredMessage : String
  deriving DecidableEq, Repr

namespace Disconnect

/-- The reason code of a disconnect without one. -/
def unknownReason : Int32 := 0

/-- The reason, whether the screen is hidden, and the texts on a screen that is not. -/
def layout (version : Version) : Layout Disconnect :=
  ((Layout.onlyIf version.hasDisconnectReason Layout.varInt32 unknownReason).pair
    (Layout.bool.chain fun hidden =>
      Layout.onlyIf (!hidden)
        (Layout.text.pair (Layout.onlyIf version.hasFilteredMessage Layout.text ""))
        ("", ""))).convert
    (fun (reason, hidden, message, filtered) => ⟨reason, hidden, message, filtered⟩)
    (fun packet =>
      (packet.reason, packet.hideScreen, packet.message, packet.filteredMessage))

/-- A disconnect that shows a text. -/
def ofMessage (message : String) : Disconnect :=
  ⟨unknownReason, false, message, ""⟩

end Disconnect

/-- The resource packs that the server requires. -/
structure ResourcePacksInfo where
  body : Bytes
  deriving DecidableEq, Repr

/-- The whole body. -/
def ResourcePacksInfo.layout : Layout ResourcePacksInfo :=
  Layout.rest.convert ResourcePacksInfo.mk ResourcePacksInfo.body

/-- The order of the resource packs. -/
structure ResourcePackStack where
  body : Bytes
  deriving DecidableEq, Repr

/-- The whole body. -/
def ResourcePackStack.layout : Layout ResourcePackStack :=
  Layout.rest.convert ResourcePackStack.mk ResourcePackStack.body

/-- Acknowledges the resource packs. -/
structure ResourcePackClientResponse where
  status : UInt8
  packIds : List String
  deriving DecidableEq, Repr

namespace ResourcePackClientResponse

/-- The status, and the names of packs behind their number in two bytes. -/
def layout : Layout ResourcePackClientResponse :=
  (Layout.byte.pair (Layout.counted Layout.count16 Layout.text)).convert
    (fun (status, packIds) => ⟨status, packIds⟩)
    (fun packet => (packet.status, packet.packIds))

/-- The client has every pack. -/
def haveAllPacks : UInt8 := 3

/-- The client has applied the packs. -/
def completed : UInt8 := 4

/-- A response that names no packs. -/
def ofStatus (status : UInt8) : ResourcePackClientResponse := ⟨status, []⟩

end ResourcePackClientResponse

end Ferry
