import Ferry.Dial
import Ferry.Script.Handshake
import Ferry.Stream

/-!
# Scripts of byte streams

What the network says about a failed call depends on the machine, so it is not shown.
-/

namespace Ferry.Script

/-- A text that tells of a failed call, without what the network says. -/
def withoutCause (message : String) : Option String :=
  if (message.splitOn "failed to connect to ").length = 1 then none
  else some (": ".intercalate (message.splitOn ": ").dropLast)

/-- The farewell of a batch that tells of nothing but a failed call. -/
def failedCall? (version : Version) (batch : Batch) : Option String :=
  match batch.packets with
  | [packet] =>
    match packet.decode version with
    | .ok (.disconnect disconnect) => withoutCause disconnect.message
    | _ => none
  | _ => none

/-- Shows a frame that has arrived at the other end of a stream. -/
def frameDocument (codec : FrameCodec) (frame : Bytes) : Json × FrameCodec :=
  let (batch, codec, _) := codec.decode frame
  let shown (batch : Batch) : Json :=
    match failedCall? codec.version batch with
    | some message => record [("algorithm", view batch.algorithm), ("disconnect", view message)]
    | none => batch.frameDocument frame
  (viewResult shown batch, codec)

/-- Pieces of bytes arrive on a stream, and frames are sent on it. -/
def stream (request : Json) : Option Json := do
  let (frames, _) := FrameReader.start.receiveAll (← request.get? "pieces")
  let (taken, written, _) := FrameWriter.start.sendAll (← request.get? "send")
  some (record [("frames", view frames), ("peer", view true), ("received", view written),
    ("sent", view taken)])

/-- Why a call failed. -/
def dialFailure (fault : DialError) : Json :=
  match withoutCause fault.message, fault with
  | some message, _ => failure "Error" message
  | none, .handshake cause => view cause
  | none, fault => failure "Error" fault.message

/-- How a call ends, as far as it has got. -/
def callDocument (codec : FrameCodec) : HandshakeProgress Unit Unit → Json
  | .waiting () => view "waiting"
  | .done (.error cause) => dialFailure (.handshake cause)
  | .done (.ok ()) => record [("version", view codec.version.number),
      ("strategy", view codec.strategy), ("peer", view true)]

/-- The proxy calls a backend that says some frames. -/
def call (request : Json) : Option Json := do
  let far ← FarEnd.ofDocument? request
  let login ← loginOf request
  let refuse ← request.getOr "refuse" false
  let answer (result : Json) (sent : List Json) : Json :=
    record [("result", result), ("sent", .array sent)]
  if refuse then some (answer (dialFailure (.unreachable "lobby" "refused")) [])
  else
    match Dial.start login with
    | .error fault => some (answer (dialFailure fault) [])
    | .ok turn =>
      let receive (_ : Unit) := BackendHandshake.receive login
      let turn := converse receive far.incoming turn
      let codec := turn.connection.codec
      some (answer (callDocument codec turn.progress) (sentDocuments codec turn.sent))

end Ferry.Script
