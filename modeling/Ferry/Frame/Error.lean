import Ferry.Compression.Basic
import Ferry.Wire.Reader

/-!
# Why a frame is refused
-/

namespace Ferry

/-- Why a frame could not be opened or sent. -/
inductive FrameError where
  /-- The first byte is not the frame marker. -/
  | wrongMarker (marker : UInt8)
  /-- The frame ends before the marker or the tag. -/
  | empty
  /-- The tag names no algorithm. -/
  | unknownCompression (tag : UInt8)
  /-- The compressed bytes are corrupt. -/
  | decompression
  /-- A batch or a packet beyond the buffer limit. -/
  | tooLarge (length : Nat)
  /-- Encryption can be enabled only once. -/
  | encryptionAlreadyEnabled
  /-- The checksum of an encrypted frame is wrong or missing. -/
  | checksumMismatch
  /-- The batch cannot be split into packets. -/
  | malformed (cause : DecodeError)
  deriving DecidableEq, Repr

namespace FrameError

/-- A digit of a hexadecimal number. -/
def hexDigit (value : Nat) : Char :=
  if value < 10 then Char.ofNat (48 + value) else Char.ofNat (87 + value)

/-- A byte as a hexadecimal number of two digits. -/
def hexByte (byte : UInt8) : String :=
  (("0x".push (hexDigit (byte.toNat / 16))).push (hexDigit (byte.toNat % 16)))

/-- The wording of a frame error. -/
def message : FrameError → String
  | wrongMarker marker => s!"invalid frame marker {hexByte marker}"
  | empty => "empty frame"
  | unknownCompression tag => s!"unknown compression algorithm tag {hexByte tag}"
  | decompression => "failed to decompress batch"
  | tooLarge length => s!"batch of {length} bytes exceeds the buffer limit"
  | encryptionAlreadyEnabled => "encryption is already enabled"
  | checksumMismatch => "encryption checksum mismatch"
  | malformed cause => s!"malformed batch: {cause.message}"

end FrameError

namespace Algorithm

/-- Compresses a batch. -/
def compress (algorithm : Algorithm) (content : Bytes) (compressor : Compressor := .plain) :
    Bytes :=
  match algorithm with
  | none => content
  | zlib => compressor.zlib content
  | snappy => compressor.snappy content

/-- Decompresses a batch, which must not be longer than the buffer limit. -/
def decompress (algorithm : Algorithm) (payload : Bytes) : Except FrameError Bytes :=
  match algorithm with
  | none =>
    let length := payload.length
    if bufferLimit < length then .error (.tooLarge length) else .ok payload
  | zlib =>
    match Deflate.inflate bufferLimit payload with
    | .ok content => .ok content
    | .error .corrupt => .error .decompression
    | .error .tooLong => .error (.tooLarge (bufferLimit + 1))
  | snappy =>
    match Snappy.announced payload with
    | Option.none => .error .decompression
    | some (length, elements) =>
      if bufferLimit < length then .error (.tooLarge length)
      else
        match Snappy.content length elements with
        | some content => .ok content
        | Option.none => .error .decompression

end Algorithm

namespace Strategy

/-- The algorithm of a received batch, and its compressed bytes. -/
def readTag (strategy : Strategy) (payload : Bytes) : Except FrameError (Algorithm × Bytes) :=
  match strategy with
  | disabled => .ok (.none, payload)
  | fixed only => .ok (only, payload)
  | tagged _ _ =>
    match payload with
    | [] => .error .empty
    | tag :: rest =>
      match Algorithm.ofTag? tag with
      | some algorithm => .ok (algorithm, rest)
      | none => .error (.unknownCompression tag)

end Strategy

end Ferry
