import Ferry.Inspect.Connection
import Ferry.Script.Basic

/-!
# Scripts of handshakes

The other end has sent some frames and is gone or stays silent. The script says how the
handshake ends, or that it waits for more.
-/

namespace Ferry.Script

/-- The frames that the other end has sent, and whether it is gone. -/
structure FarEnd where
  frames : List Bytes
  gone : Bool

/-- The far end that a document describes. -/
def FarEnd.ofDocument? (request : Json) : Option FarEnd := do
  some ⟨← request.get? "frames", ← request.getOr "close" false⟩

/-- What has come in from the far end: its frames, and then, if it is gone, the end. -/
def FarEnd.incoming (far : FarEnd) : List (Option Bytes) :=
  far.frames.map some ++ if far.gone then [none] else []

variable {σ α : Type}

/-- Hands what has come in to a handshake until it is done. -/
def converse (receive : σ → Connection → Option Bytes → HandshakeTurn σ α) :
    List (Option Bytes) → HandshakeTurn σ α → HandshakeTurn σ α
  | [], turn => turn
  | frame :: frames, turn =>
    match turn.progress with
    | .done _ => turn
    | .waiting stage =>
      let next := receive stage turn.connection frame
      converse receive frames
        { next with sent := turn.sent ++ next.sent, counted := turn.counted ++ next.counted }

/-- The frames that were sent. Only the first was sent before the ends agreed on anything. -/
def sentDocuments (codec : FrameCodec) (sent : List Bytes) : List Json :=
  { codec with strategy := .disabled }.documents (sent.take 1) ++
    codec.documents (sent.drop 1)

/-- A handshake as it stands. -/
def turnDocument (encode : α → Json) (turn : HandshakeTurn σ α) : Json :=
  let codec := turn.connection.codec
  let result := match turn.progress with
    | .waiting _ => view "waiting"
    | .done result => viewResult encode result
  record [("result", result), ("version", view codec.version.number),
    ("strategy", view codec.strategy), ("peer", .null),
    ("closed", view turn.connection.severed), ("sent", .array (sentDocuments codec turn.sent))]

/-- A client logs in. -/
def clientHandshake (request : Json) : Option Json := do
  let far ← FarEnd.ofDocument? request
  let session : SessionId ← request.get? "session"
  let settings ← request.getOr "settings" CompressionSettings.default
  let connection : Connection := ⟨FrameCodec.ofVersion (← versionOf request), far.gone⟩
  let start : HandshakeTurn ClientStage LoginData := ⟨.waiting .request, connection, [], []⟩
  some (turnDocument view (converse (ClientHandshake.receive session settings) far.incoming start))

/-- The login data that a script gives a backend. -/
def loginOf (request : Json) : Option LoginData := do
  let version : UInt32 ← request.get? "version"
  let chain ← request.getOr "request" (Bytes.ofString "chain")
  some ⟨⟨1⟩, version, ⟨version.toInt32, chain⟩, ← request.get? "client_ids"⟩

/-- The proxy logs a player in to a backend. -/
def backendHandshake (request : Json) : Option Json := do
  let far ← FarEnd.ofDocument? request
  let login ← loginOf request
  let start := BackendHandshake.start login ⟨FrameCodec.ofVersion Version.latest, far.gone⟩
  let receive (_ : Unit) := BackendHandshake.receive login
  some (turnDocument (fun _ => view "ok") (converse receive far.incoming start))

end Ferry.Script
