import Ferry.Packet.Basic

/-!
# Packet headers

A header is one number: the packet's kind in the low ten bits, then two bits each
for the sub-client that sends and the sub-client that receives. Higher bits of a
received number are ignored.
-/

namespace Ferry

/-- What stands in front of a packet. -/
structure Header where
  id : PacketId
  /-- Which player on the sending end. -/
  sender : UInt8
  /-- Which player on the receiving end. -/
  target : UInt8
  deriving DecidableEq, Repr, Inhabited

namespace Header

/-- The header of a packet between the main players. -/
def ofId (id : PacketId) : Header := ⟨id, 0, 0⟩

/-- The header as one number; a field keeps only the bits it has room for. -/
def toNat (header : Header) : Nat :=
  header.id.toNat % 1024 + header.sender.toNat % 4 * 1024 + header.target.toNat % 4 * 4096

/-- The header in a received number. -/
def ofNat (number : Nat) : Header where
  id := UInt32.ofNat (number % 1024)
  sender := UInt8.ofNat (number / 1024 % 4)
  target := UInt8.ofNat (number / 4096 % 4)

/-- Reads a header. -/
def read : Reader Header := do
  let number ← Varint.read32
  pure (ofNat number.toNat)

/-- Writes a header. -/
def encode (header : Header) : Bytes :=
  Varint.encode header.toNat

end Header

end Ferry
