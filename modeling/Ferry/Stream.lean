import Ferry.Bytes

/-!
# Frames on a byte stream

A stream carries bytes, not frames, so each frame is announced by its length, four bytes
with the most significant first. `FrameReader` takes in bytes in whatever pieces they
arrive, and gives out the frames that are complete. A length beyond the limit ends the
frames for good; so does the end of the stream, wherever it comes.
-/

namespace Ferry

/-- A frame as it goes onto a stream, unless it is too long for one. -/
def announce? (frame : Bytes) : Option Bytes :=
  if frame.length ≤ bufferLimit then some (Bytes.bigEndian 4 frame.length ++ frame) else none

/-- The receiving end of a stream. -/
structure FrameReader where
  /-- What has arrived of a frame that is not complete. -/
  held : Bytes
  /-- Whether a length was beyond the limit. -/
  broken : Bool
  deriving DecidableEq, Repr

namespace FrameReader

/-- A stream on which nothing has arrived. -/
def start : FrameReader := ⟨[], false⟩

/-- The complete frames at the front of some bytes, and what remains. -/
def split (held : Bytes) : List Bytes × FrameReader :=
  match held with
  | a :: b :: c :: d :: rest =>
    let length := Bytes.ofBigEndian [a, b, c, d]
    if bufferLimit < length then ([], ⟨[], true⟩)
    else if rest.length < length then ([], ⟨held, false⟩)
    else
      let (frames, reader) := split (rest.drop length)
      (rest.take length :: frames, reader)
  | _ => ([], ⟨held, false⟩)
  termination_by held.length
  decreasing_by simp only [List.length_drop, List.length_cons]; omega

/-- Takes in bytes. -/
def receive (reader : FrameReader) (bytes : Bytes) : List Bytes × FrameReader :=
  if reader.broken then ([], reader) else split (reader.held ++ bytes)

/-- Takes in bytes in several pieces. -/
def receiveAll (reader : FrameReader) : List Bytes → List Bytes × FrameReader
  | [] => ([], reader)
  | piece :: pieces =>
    let (frames, reader) := reader.receive piece
    let (more, reader) := reader.receiveAll pieces
    (frames ++ more, reader)

end FrameReader

/-- The sending end of a stream. -/
structure FrameWriter where
  /-- Whether a frame was too long, so that nothing is written any more. -/
  ended : Bool
  deriving DecidableEq, Repr

namespace FrameWriter

/-- A stream on which nothing was sent. -/
def start : FrameWriter := ⟨false⟩

/-- Sends a frame: says whether it was taken, and what goes onto the stream. A frame that is
too long is taken, but ends the stream instead of going onto it. -/
def send (writer : FrameWriter) (frame : Bytes) : Bool × Bytes × FrameWriter :=
  if writer.ended then (false, [], writer)
  else
    match announce? frame with
    | some written => (true, written, writer)
    | none => (true, [], ⟨true⟩)

/-- Sends several frames. -/
def sendAll (writer : FrameWriter) : List Bytes → List Bool × Bytes × FrameWriter
  | [] => ([], [], writer)
  | frame :: frames =>
    let (taken, written, writer) := writer.send frame
    let (more, rest, writer) := writer.sendAll frames
    (taken :: more, written ++ rest, writer)

end FrameWriter

end Ferry
