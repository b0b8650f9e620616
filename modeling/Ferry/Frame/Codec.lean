import Ferry.Batch
import Ferry.Frame.Encryption
import Ferry.Observation

/-!
# Frames

A frame is a marker byte and a payload. The payload is encrypted, if encryption is
enabled; inside is the tag, if batches carry one, and the compressed batch; and the
batch is packets in a row, each behind its length.

A batch that was not modified is sent in the compressed bytes it came in, wherever
the connection accepts their algorithm.
-/

namespace Ferry

/-- How one end of a connection reads and writes frames. -/
structure FrameCodec where
  version : Version
  strategy : Strategy
  encryption : Option Encryption
  deriving DecidableEq, Repr, Inhabited

namespace FrameCodec

/-- A codec of a version, before anything is negotiated. -/
def ofVersion (version : Version) : FrameCodec := ⟨version, .disabled, none⟩

/-- The first byte of every frame. -/
def marker : UInt8 := 0xfe

/-- The strategy that both ends use after agreeing on an algorithm and a threshold. -/
def negotiated (codec : FrameCodec) (algorithm : Algorithm) (threshold : Nat) : Strategy :=
  if codec.version.hasCompressionTag then .tagged algorithm threshold else .fixed algorithm

/-- Enables encryption, once. -/
def enableEncryption (codec : FrameCodec) (key : Bytes) (validate : Bool) :
    Except FrameError FrameCodec :=
  match codec.encryption with
  | some _ => .error .encryptionAlreadyEnabled
  | none => .ok { codec with encryption := some (Encryption.start key validate) }

/-! ## Opening frames -/

/-- The payload of a frame. -/
def stripMarker : Bytes → Except FrameError Bytes
  | [] => .error .empty
  | first :: payload => if first = marker then .ok payload else .error (.wrongMarker first)

/-- Splits a batch into its packets; `read` holds those already split off, last first.
A packet takes at least one byte, so the length of the batch is enough fuel. The body
of a packet begins after as many bytes as its header takes when it is written. -/
def splitOnto (read : List BatchPacket) :
    (fuel : Nat) → Bytes → Except FrameError (List BatchPacket)
  | _, [] => .ok read.reverse
  | 0, _ :: _ => .ok read.reverse
  | fuel + 1, input =>
    match Varint.read32 input with
    | .error cause _ => .error (.malformed cause)
    | .ok length rest =>
      if bufferLimit < length.toNat then .error (.tooLarge length.toNat)
      else
        match Reader.take length.toNat rest with
        | .error cause _ => .error (.malformed cause)
        | .ok packet rest =>
          match Header.read packet with
          | .error cause _ => .error (.malformed cause)
          | .ok header _ =>
            let body := packet.drop (Varint.size header.toNat)
            splitOnto (BatchPacket.received header body :: read) fuel rest

/-- The packets of an uncompressed batch. -/
def split (uncompressed : Bytes) : Except FrameError (List BatchPacket) :=
  splitOnto [] uncompressed.length uncompressed

/-- Decrypts a payload, if encryption is enabled. -/
def decrypt (codec : FrameCodec) (payload : Bytes) : Except FrameError Bytes × FrameCodec :=
  match codec.encryption with
  | none => (.ok payload, codec)
  | some state =>
    let (opened, state) := state.decrypt payload
    (opened, { codec with encryption := some state })

/-- The uncompressed batch in compressed bytes. A batch that is not compressed is taken
as it is. -/
def expand (algorithm : Algorithm) (compressed : Bytes) : Except FrameError Bytes :=
  match algorithm with
  | .none => .ok compressed
  | other => other.decompress compressed

/-- What is counted when a batch was decompressed. -/
def expansion (algorithm : Algorithm) (compressed uncompressed : Bytes) : List Observation :=
  match algorithm with
  | .none => []
  | _ => [.decompressed compressed.length uncompressed.length]

/-- Reads a decrypted payload. -/
def open? (strategy : Strategy) (payload : Bytes) : Except FrameError Batch × List Observation :=
  match strategy.readTag payload with
  | .error fault => (.error fault, [])
  | .ok (algorithm, compressed) =>
    match expand algorithm compressed with
    | .error fault => (.error fault, [])
    | .ok uncompressed =>
      let counted := expansion algorithm compressed uncompressed
      match split uncompressed with
      | .error fault => (.error fault, counted)
      | .ok packets => (.ok ⟨packets, some compressed, some uncompressed, algorithm, false, false⟩,
          counted)

/-- Opens a frame. The codec moves on even where the frame is refused. -/
def decode (codec : FrameCodec) (frame : Bytes) :
    Except FrameError Batch × FrameCodec × List Observation :=
  match stripMarker frame with
  | .error fault => (.error fault, codec, [])
  | .ok payload =>
    let (opened, codec) := codec.decrypt payload
    match opened with
    | .error fault => (.error fault, codec, [])
    | .ok payload =>
      let (batch, counted) := open? codec.strategy payload
      (batch, codec, counted)

/-! ## Sealing frames -/

/-- The compressed form in which a batch goes out. -/
structure Payload where
  algorithm : Algorithm
  compressed : Bytes
  /-- Whether the bytes are those the batch came in. -/
  reused : Bool
  deriving DecidableEq, Repr

/-- The compressed form of a batch, and what is counted. -/
def payload (codec : FrameCodec) (batch : Batch) (compressor : Compressor := .plain) :
    Payload × List Observation :=
  let count := batch.packets.length
  let anew : Payload × List Observation :=
    let uncompressed := batch.serialize codec.version
    let algorithm := codec.strategy.choose uncompressed.length
    let counted := if batch.modified then Observation.reencoded count else .passedThrough count
    let counted :=
      if algorithm = .none then [counted] else [counted, .compressed uncompressed.length]
    (⟨algorithm, algorithm.compress uncompressed compressor, false⟩, counted)
  match batch.compressed with
  | some compressed =>
    if !batch.modified && codec.strategy.accepts batch.algorithm then
      (⟨batch.algorithm, compressed, true⟩, [.passedThrough count])
    else anew
  | none => anew

/-- Puts a compressed batch into a frame. -/
def enclose (codec : FrameCodec) (payload : Payload) : Bytes × FrameCodec :=
  let tagged := codec.strategy.withTag payload.algorithm payload.compressed
  match codec.encryption with
  | none => (marker :: tagged, codec)
  | some state =>
    let (sealedBytes, state) := state.encrypt tagged
    (marker :: sealedBytes, { codec with encryption := some state })

/-- Writes a batch as a frame. -/
def encode (codec : FrameCodec) (batch : Batch) (compressor : Compressor := .plain) :
    Bytes × FrameCodec × List Observation :=
  let (payload, counted) := codec.payload batch compressor
  let (frame, codec) := codec.enclose payload
  (frame, codec, counted)

end FrameCodec

end Ferry
