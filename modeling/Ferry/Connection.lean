import Ferry.Frame.Codec

/-!
# Connections

A connection is one end of a link that carries whole frames, together with the codec of
these frames. The link itself is elsewhere: sending returns the frame to be carried.
-/

namespace Ferry

/-- Why something on a connection failed. -/
inductive ConnectionError where
  /-- The other end is gone, so that nothing can be sent. -/
  | linkClosed
  /-- The other end is gone, so that nothing can be received. -/
  | connectionClosed
  /-- A frame could not be opened. -/
  | frame (cause : FrameError)
  /-- A batch was expected to hold a packet and has none. -/
  | emptyBatch
  /-- A packet could not be decoded. -/
  | packet (cause : DecodeError)
  deriving DecidableEq, Repr

/-- The wording of a frame error and, behind it, of what caused it. -/
def FrameError.chain (fault : FrameError) : String :=
  match fault with
  | .malformed cause => s!"{fault.message}: {cause.message}"
  | _ => fault.message

/-- The wording of a connection error. -/
def ConnectionError.message : ConnectionError → String
  | .linkClosed => "link closed"
  | .connectionClosed => "connection closed"
  | .frame cause => s!"failed to decode batch: {cause.chain}"
  | .emptyBatch => "empty batch"
  | .packet cause => cause.message

/-- One end of a connection. -/
structure Connection where
  codec : FrameCodec
  /-- Whether the other end is gone. -/
  severed : Bool
  deriving DecidableEq, Repr

namespace Connection

/-- The protocol version that packets are written in. -/
def version (connection : Connection) : Version := connection.codec.version

/-- The connection with another version. -/
def withVersion (connection : Connection) (version : Version) : Connection :=
  { connection with codec := { connection.codec with version := version } }

/-- The connection with the compression that both ends have agreed on. -/
def withCompression (connection : Connection) (algorithm : Algorithm) (threshold : Nat) :
    Connection :=
  { connection with
    codec := { connection.codec with strategy := connection.codec.negotiated algorithm threshold } }

/-- Opens a frame that has arrived. -/
def decode (connection : Connection) (frame : Bytes) :
    Except ConnectionError Batch × Connection × List Observation :=
  let (batch, codec, counted) := connection.codec.decode frame
  (batch.mapError .frame, { connection with codec := codec }, counted)

/-- Puts a batch into a frame. Nobody is left to carry it to once the other end is gone. -/
def send (connection : Connection) (batch : Batch) (compressor : Compressor := .plain) :
    Except ConnectionError Bytes × Connection × List Observation :=
  let (frame, codec, counted) := connection.codec.encode batch compressor
  (if connection.severed then .error .linkClosed else .ok frame,
    { connection with codec := codec }, counted)

/-- The first packet of a frame, decoded; nothing stands for the end of the link. In a
handshake, batches hold one packet each. -/
def receiveFirst (connection : Connection) (frame : Option Bytes) :
    Except ConnectionError Packet × Connection × List Observation :=
  match frame with
  | none => (.error .connectionClosed, connection, [])
  | some frame =>
    let (batch, connection, counted) := connection.decode frame
    let first : Except ConnectionError Packet :=
      match batch with
      | .error fault => .error fault
      | .ok batch =>
        match batch.packets with
        | [] => .error .emptyBatch
        | packet :: _ => (packet.decode connection.version).mapError .packet
    (first, connection, counted)

end Connection

end Ferry
