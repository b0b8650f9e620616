import Ferry.Handshake.Backend
import Ferry.Handshake.Client
import Ferry.Inspect.Player

/-!
# Connections and handshakes as documents
-/

namespace Ferry

instance : View SessionId where
  toDocument id := .array [view id.number, view (toString id)]
  ofDocument? document := document.as?.map SessionId.mk

instance : View HandshakeError where
  toDocument
    | .connection (.frame .decompression) => view FrameError.decompression
    | fault => failure "Error" fault.message
  ofDocument? _ := none

instance : View LoginData where
  toDocument login := record [("session", view login.session),
    ("protocol_version", view login.protocolVersion),
    ("login", record [("protocol_version", view login.login.protocolVersion),
      ("connection_request", view login.login.connectionRequest)]),
    ("client_ids", view login.clientIds.isSome)]
  ofDocument? _ := none

/-- A batch as it stood in a frame. Frames that a compressor has made are left out. -/
def Batch.frameDocument (frame : Bytes) (batch : Batch) : Json :=
  let members := [("algorithm", view batch.algorithm), ("body", view batch.uncompressed)]
  record (if batch.algorithm = .none then members ++ [("frame", view frame)] else members)

/-- Frames in a row, opened by one codec. -/
def FrameCodec.documents (codec : FrameCodec) : List Bytes → List Json
  | [] => []
  | frame :: frames =>
    let (batch, codec, _) := codec.decode frame
    viewResult (Batch.frameDocument frame) batch :: codec.documents frames

end Ferry
