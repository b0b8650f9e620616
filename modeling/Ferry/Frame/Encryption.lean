import Ferry.Cipher.Aes
import Ferry.Digest.Sha256
import Ferry.Frame.Error

/-!
# Encrypted frames

A payload is followed by eight bytes of checksum, and both are encrypted with one
keystream that goes on from frame to frame. The checksum covers the number of the
frame, the payload and the key, so a frame that is lost, repeated or changed does not
pass. Each direction has its own position and its own count of frames.
-/

namespace Ferry

/-- How far one direction of an encrypted connection got. -/
structure Progress where
  /-- Keystream bytes used. -/
  position : Nat
  /-- Frames counted. -/
  frames : Nat
  deriving DecidableEq, Repr, Inhabited

/-- The encryption of a connection. -/
structure Encryption where
  /-- The 32 bytes that both ends share. -/
  key : Bytes
  /-- Whether checksums are compared. -/
  validate : Bool
  sent : Progress
  received : Progress
  deriving DecidableEq, Repr, Inhabited

namespace Encryption

/-- Encryption that begins. -/
def start (key : Bytes) (validate : Bool) : Encryption :=
  ⟨key, validate, ⟨0, 0⟩, ⟨0, 0⟩⟩

/-- The size of a checksum in bytes. -/
def checksumSize : Nat := 8

/-- The value that the counter of the keystream begins with: twelve bytes of the key,
then the number 2. -/
def initialCounter (key : Bytes) : Nat :=
  Bytes.ofBigEndian (key.take 12 ++ [0, 0, 0, 2])

/-- Combines data with the keystream from `position` on. -/
def applyKeystream (key : Bytes) (position : Nat) (data : Bytes) : Bytes :=
  Aes.apply key (initialCounter key) position data

/-- The checksum of a payload in the frame of a number. -/
def checksum (key : Bytes) (frame : Nat) (payload : Bytes) : Bytes :=
  (Sha256.digest (Bytes.littleEndian 8 frame ++ payload ++ key)).take checksumSize

/-- Seals a payload. -/
def encrypt (state : Encryption) (payload : Bytes) : Bytes × Encryption :=
  let plain := payload ++ checksum state.key state.sent.frames payload
  (applyKeystream state.key state.sent.position plain,
    { state with sent := ⟨state.sent.position + plain.length, state.sent.frames + 1⟩ })

/-- Opens a sealed payload. The keystream moves on whatever comes of it; a frame too
short for a checksum is not counted. -/
def decrypt (state : Encryption) (data : Bytes) : Except FrameError Bytes × Encryption :=
  let plain := applyKeystream state.key state.received.position data
  let position := state.received.position + data.length
  if data.length < checksumSize then
    (.error .checksumMismatch, { state with received := ⟨position, state.received.frames⟩ })
  else
    let (payload, found) := plain.splitAt (data.length - checksumSize)
    let next := { state with received := ⟨position, state.received.frames + 1⟩ }
    if state.validate && found ≠ checksum state.key state.received.frames payload then
      (.error .checksumMismatch, next)
    else (.ok payload, next)

end Encryption

end Ferry
