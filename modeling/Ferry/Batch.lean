import Ferry.Compression.Basic
import Ferry.Packet.Header

/-!
# Batches of packets

A packet of a received batch keeps its body as it came, and is decoded only when
somebody asks. It is written out as it came unless it is dirty: then its decoded
value is written. A batch likewise keeps the bytes it came in, and goes out as these
bytes unless it was modified.
-/

namespace Ferry

/-- A packet in a batch. -/
structure BatchPacket where
  header : Header
  /-- The body as it came; empty for a packet that the proxy made. -/
  body : Bytes
  decoded : Option Packet
  /-- Whether the decoded value is to be written in place of the body. -/
  dirty : Bool
  deriving DecidableEq, Repr

namespace BatchPacket

/-- A packet as received. -/
def received (header : Header) (body : Bytes) : BatchPacket :=
  ⟨header, body, none, false⟩

/-- A packet that the proxy makes. -/
def made (packet : Packet) : BatchPacket :=
  ⟨Header.ofId packet.id, [], some packet, true⟩

/-- The decoded value, decoding the body if that has not happened yet. -/
def decode (packet : BatchPacket) (version : Version) : Except DecodeError Packet :=
  match packet.decoded with
  | some value => .ok value
  | none => Packet.decode version packet.header.id packet.body

/-- The packet together with its decoded value. -/
def withDecoded (packet : BatchPacket) (value : Packet) : BatchPacket :=
  { packet with decoded := some value }

/-- The packet, to be written from its decoded value. -/
def markDirty (packet : BatchPacket) : BatchPacket :=
  { packet with dirty := true }

/-- The packet with another value in its place. -/
def replace (packet : BatchPacket) (value : Packet) : BatchPacket :=
  { packet with
    header := { packet.header with id := value.id }
    decoded := some value
    dirty := true }

/-- What is written after the header. -/
def outgoingBody (packet : BatchPacket) (version : Version) : Bytes :=
  match packet.decoded, packet.dirty with
  | some value, true => value.body version
  | _, _ => packet.body

/-- The packet on the wire. -/
def encode (packet : BatchPacket) (version : Version) : Bytes :=
  packet.header.encode ++ packet.outgoingBody version

end BatchPacket

/-- Packets that go out together. -/
structure Batch where
  packets : List BatchPacket
  /-- The compressed bytes that the batch came in. -/
  compressed : Option Bytes
  /-- The bytes that the batch was split from. -/
  uncompressed : Option Bytes
  algorithm : Algorithm
  /-- Whether the packets have changed since. -/
  modified : Bool
  /-- Whether the batch overtakes what is queued. -/
  skipQueue : Bool
  deriving DecidableEq, Repr

namespace Batch

/-- No packets. -/
def empty : Batch := ⟨[], none, none, .zlib, false, false⟩

/-- A batch that has no bytes of its own yet. -/
def ofPackets (packets : List BatchPacket) : Batch :=
  { empty with packets := packets, modified := true }

/-- A batch of packets that the proxy makes. -/
def made (packets : List Packet) : Batch :=
  ofPackets (packets.map BatchPacket.made)

/-- The batch without the bytes it came in. -/
def markModified (batch : Batch) : Batch :=
  { batch with modified := true, compressed := none, uncompressed := none }

/-- A packet behind its length. A longer packet is written with the longest length. -/
def lengthPrefixed (packet : Bytes) : Bytes :=
  Varint.encode (min packet.length (UInt32.size - 1)) ++ packet

/-- The packets in a row, each behind its length. -/
def encodePackets (packets : List BatchPacket) (version : Version) : Bytes :=
  packets.flatMap fun packet => lengthPrefixed (packet.encode version)

/-- The uncompressed bytes of a batch: those it came in, unless it was modified. -/
def serialize (batch : Batch) (version : Version) : Bytes :=
  match batch.modified, batch.uncompressed with
  | false, some bytes => bytes
  | _, _ => encodePackets batch.packets version

/-- Adds the packets of another batch at the end. -/
def extend (batch other : Batch) : Batch :=
  if other.packets.isEmpty then batch
  else
    let modified := batch.markModified
    { modified with packets := modified.packets ++ other.packets }

end Batch

end Ferry
