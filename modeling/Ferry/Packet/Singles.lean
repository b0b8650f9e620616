import Ferry.Packet.Basic

/-!
# The real numbers in packets

A pattern that stands for no number compares unequal even to itself, so a packet that
holds one is not the same value as any other, however alike their bytes are.
-/

namespace Ferry

/-- The coordinates of a vector. -/
def Vector.singles (vector : Vector) : List Single := [vector.x, vector.y, vector.z]

/-- The angles of a rotation. -/
def Rotation.singles (rotation : Rotation) : List Single := [rotation.pitch, rotation.yaw]

/-- The real numbers in a value of an entity's metadata. -/
def MetadataValue.singles : MetadataValue → List Single
  | .float value => [value]
  | .vector value => value.singles
  | _ => []

/-- The real numbers in an entity's metadata. -/
def Metadata.singles (metadata : Metadata) : List Single :=
  metadata.entries.flatMap fun entry => entry.value.singles

/-- The real numbers among an entity's properties. -/
def Properties.singles (properties : Properties) : List Single :=
  properties.floats.map FloatProperty.value

/-- The real numbers in an attribute. -/
def Attribute.singles (entry : Attribute) : List Single := [entry.min, entry.value, entry.max]

namespace Packet

/-- The real numbers in a packet. -/
def singles : Packet → List Single
  | .startGame packet => packet.position.singles ++ packet.rotation.singles
  | .addPlayer packet => packet.position.singles ++ packet.velocity.singles ++
      [packet.pitch, packet.yaw, packet.headYaw] ++ packet.metadata.singles ++
      packet.properties.singles
  | .addEntity packet => packet.position.singles ++ packet.velocity.singles ++
      [packet.pitch, packet.yaw, packet.headYaw, packet.bodyYaw] ++
      packet.attributes.flatMap Attribute.singles ++ packet.metadata.singles
  | .movePlayer packet =>
    packet.position.singles ++ [packet.pitch, packet.yaw, packet.headYaw]
  | .levelEvent packet => packet.position.singles
  | .levelSoundEvent packet => packet.position.singles
  | .setEntityData packet => packet.metadata.singles
  | .setEntityMotion packet => packet.motion.singles
  | .changeDimension packet => packet.position.singles
  | .networkSettings packet => [packet.clientThrottleScalar]
  | _ => []

/-- Whether two packets are the same value. -/
def same (left right : Packet) : Bool :=
  left = right && !left.singles.any Single.isNaN

end Packet

end Ferry
