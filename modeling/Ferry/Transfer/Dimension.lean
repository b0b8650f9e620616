import Ferry.Packet.Basic

/-!
# Changes of dimension

A client drops the world it shows only when it changes dimension. These packets make it
do so: the change itself, empty chunks around the player, without which the loading screen
stays, and the radius in which it is to keep chunks.
-/

namespace Ferry.Dimension

/-- The dimensions that there are: the overworld, the nether and the end. -/
def all : List Int32 := [0, 1, 2]

/-- A dimension that is neither of two. -/
def other (current target : Int32) : Int32 :=
  (all.find? fun dimension => dimension ≠ current && dimension ≠ target).getD 2

/-- The radius in chunks in which a client keeps chunks, for the radius that it may see. -/
def publisherRadius (chunkRadius : Int32) : Int32 :=
  if chunkRadius < 12 then max (chunkRadius - 2) 4 else chunkRadius - 4

/-- The offsets from the player's chunk of the empty chunks around it. -/
def surroundings : List Int32 := [-3, -2, -1, 0, 1, 2, 3]

/-- The packets that move a client into a dimension. -/
def change (dimension : Int32) (position : Vector) (chunkRadius : Int32) : List Packet :=
  let block := BlockPosition.ofVector position
  let chunks := surroundings.flatMap fun x => surroundings.map fun z =>
    Packet.levelChunk (LevelChunk.empty (block.chunk.x + x) (block.chunk.z + z) dimension)
  [.changeDimension ⟨dimension, position, false, none⟩] ++ chunks ++
    [.networkChunkPublisherUpdate ⟨block, (publisherRadius chunkRadius * 16).toUInt32, []⟩]

end Ferry.Dimension
