import Ferry.Frame.Codec
import Ferry.Inspect.Packet

/-!
# Frames and batches as documents
-/

namespace Ferry

instance : View Algorithm where
  toDocument algorithm := view algorithm.name
  ofDocument? document := document.toString? >>= Algorithm.ofName?

instance : View Strategy where
  toDocument
    | .disabled => view "disabled"
    | .fixed only => record [("static", view only)]
    | .tagged preferred threshold =>
      record [("dynamic", view preferred), ("threshold", view threshold)]
  ofDocument? document :=
    match document.member? "static", document.member? "dynamic" with
    | some only, _ => Strategy.fixed <$> only.as?
    | _, some preferred => do
      some (.tagged (← preferred.as?) (← document.get? "threshold"))
    | none, none => some .disabled

instance : View CompressionSettings where
  toDocument settings := record [("algorithm", view settings.algorithm),
    ("level", view settings.level), ("threshold", view settings.threshold)]
  ofDocument? document := do
    some ⟨← document.get? "algorithm", ← document.get? "level", ← document.get? "threshold"⟩

/-- The short name of a frame error's kind. -/
def FrameError.kind : FrameError → String
  | .wrongMarker _ => "FrameMarker"
  | .empty => "EmptyFrame"
  | .unknownCompression _ => "UnknownCompression"
  | .decompression => "Decompression"
  | .tooLarge _ => "TooLarge"
  | .encryptionAlreadyEnabled => "EncryptionAlreadyEnabled"
  | .checksumMismatch => "TrailerMismatch"
  | .malformed _ => "Batch"

instance : View FrameError where
  toDocument
    | .decompression => record [("error", view "Decompression")]
    | fault => failure fault.kind fault.message
  ofDocument? _ := none

instance : View Observation where
  toDocument
    | .queueOverflow packets batches =>
      .array [view "queue_overflow", view packets, view batches]
    | .compressed uncompressed => .array [view "bytes_compressed", view uncompressed]
    | .decompressed compressed uncompressed =>
      .array [view "bytes_decompressed", view compressed, view uncompressed]
    | .passedThrough packets => .array [view "packets_passed_through", view packets]
    | .reencoded packets => .array [view "packets_reencoded", view packets]
    | .canceled packets bytes => .array [view "packets_canceled", view packets, view bytes]
    | .dropped bytes => .array [view "bytes_dropped", view bytes]
  ofDocument? _ := none

/-- A packet as it would be written. -/
def BatchPacket.outgoing (version : Version) (packet : BatchPacket) : RawPacket :=
  ⟨packet.header, packet.outgoingBody version⟩

/-- A packet as it would have been received. -/
def RawPacket.toBatchPacket (packet : RawPacket) : BatchPacket :=
  BatchPacket.received packet.header packet.body

/-- The packets of a batch, as they would be written. -/
def Batch.outgoing (version : Version) (batch : Batch) : List RawPacket :=
  batch.packets.map (BatchPacket.outgoing version)

/-- A batch with all that is kept beside its packets. Of compressed bytes only the length
is shown, and only where no compressor made them. -/
def Batch.document (version : Version) (batch : Batch) : Json :=
  record [("packets", view (batch.outgoing version)),
    ("dirty", view (batch.packets.map BatchPacket.dirty)),
    ("decoded", view (batch.packets.map fun packet => packet.decoded.isSome)),
    ("algorithm", view batch.algorithm), ("modified", view batch.modified),
    ("skip_queue", view batch.skipQueue), ("has_compressed", view batch.compressed.isSome),
    ("compressed",
      if batch.algorithm = .none then view (batch.compressed.map List.length) else .null),
    ("uncompressed", view batch.uncompressed)]

/-- A packet that the proxy makes, as it would be written. -/
def Packet.outgoing (version : Version) (packet : Packet) : RawPacket :=
  (BatchPacket.made packet).outgoing version

end Ferry
