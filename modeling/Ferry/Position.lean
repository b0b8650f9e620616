import Ferry.Wire.Layout

/-!
# Places in the world

Positions are vectors of single-precision numbers; blocks and chunk columns are
addressed by integers. A chunk column is 16 blocks wide in both directions, so
the column of a block is its coordinates divided by 16, rounded down.
-/

namespace Ferry

/-- A point or a direction. -/
structure Vector where
  x : Single
  y : Single
  z : Single
  deriving DecidableEq, Repr, Inhabited

/-- The origin. -/
def Vector.zero : Vector := ⟨.zero, .zero, .zero⟩

/-- A vector as three numbers in a row. -/
def Vector.layout : Layout Vector :=
  (Layout.single.pair (Layout.single.pair Layout.single)).convert
    (fun (x, y, z) => ⟨x, y, z⟩) (fun vector => (vector.x, vector.y, vector.z))

/-- Where something looks, in degrees. -/
structure Rotation where
  pitch : Single
  yaw : Single
  deriving DecidableEq, Repr, Inhabited

/-- Looking straight ahead along the first axis. -/
def Rotation.zero : Rotation := ⟨.zero, .zero⟩

/-- A rotation as two numbers in a row. -/
def Rotation.layout : Layout Rotation :=
  (Layout.single.pair Layout.single).convert
    (fun (pitch, yaw) => ⟨pitch, yaw⟩) (fun rotation => (rotation.pitch, rotation.yaw))

/-- A vector of whole numbers, of either sign. -/
structure IntVector where
  x : Int32
  y : Int32
  z : Int32
  deriving DecidableEq, Repr, Inhabited

/-- A whole-number vector as three signed variable-length integers. -/
def IntVector.layout : Layout IntVector :=
  (Layout.varInt32.pair (Layout.varInt32.pair Layout.varInt32)).convert
    (fun (x, y, z) => ⟨x, y, z⟩) (fun vector => (vector.x, vector.y, vector.z))

/-- A column of chunks, 16 by 16 blocks. -/
structure ChunkPosition where
  x : Int32
  z : Int32
  deriving DecidableEq, Repr, Inhabited

/-- A chunk column as two signed variable-length integers. -/
def ChunkPosition.layout : Layout ChunkPosition :=
  (Layout.varInt32.pair Layout.varInt32).convert
    (fun (x, z) => ⟨x, z⟩) (fun chunk => (chunk.x, chunk.z))

/-- The place of a block. -/
structure BlockPosition where
  x : Int32
  y : Int32
  z : Int32
  deriving DecidableEq, Repr, Inhabited

namespace BlockPosition

/-- A block position on the wire; the height is written as an unsigned number. -/
def layout : Layout BlockPosition :=
  (Layout.varInt32.pair ((Layout.varUInt32.convert UInt32.toInt32 Int32.toUInt32).pair
    Layout.varInt32)).convert
    (fun (x, y, z) => ⟨x, y, z⟩) (fun block => (block.x, block.y, block.z))

/-- The block that holds a point. -/
def ofVector (point : Vector) : BlockPosition :=
  ⟨point.x.floor, point.y.floor, point.z.floor⟩

/-- The chunk column of a block. -/
def chunk (block : BlockPosition) : ChunkPosition :=
  ⟨Int32.ofInt (block.x.toInt / 16), Int32.ofInt (block.z.toInt / 16)⟩

end BlockPosition

end Ferry
