import Ferry.Position
import Ferry.Version

/-!
# Packets about the world

A chunk column arrives whole or in sub-chunks that the client asks for. Which of
the two, and up to what height, is said by two reserved values of the count.
-/

namespace Ferry

/-- Changes one block. -/
structure UpdateBlock where
  position : BlockPosition
  blockId : UInt32
  flags : UInt32
  layer : UInt32
  deriving DecidableEq, Repr

/-- Where the block is, which block it is now, and how the change is shown. -/
def UpdateBlock.layout : Layout UpdateBlock :=
  (BlockPosition.layout.pair (Layout.varUInt32.pair (Layout.varUInt32.pair
    Layout.varUInt32))).convert
    (fun (position, blockId, flags, layer) => ⟨position, blockId, flags, layer⟩)
    (fun packet => (packet.position, packet.blockId, packet.flags, packet.layer))

/-- A column of sub-chunks. -/
structure LevelChunk where
  chunkX : Int32
  chunkZ : Int32
  dimension : Int32
  subChunkCount : UInt32
  /-- There when the client is to ask for sub-chunks up to a height. -/
  highestSubChunk : Option UInt16
  /-- There when the client caches sub-chunks. -/
  blobIds : Option (List UInt64)
  data : Bytes
  deriving DecidableEq, Repr

namespace LevelChunk

/-- The count of a column whose sub-chunks the client asks for. -/
def requestUnlimited : UInt32 := 0xffffffff

/-- The count of a column whose sub-chunks the client asks for up to a height. -/
def requestLimited : UInt32 := 0xfffffffe

/-- A height that is missing is written as 0. -/
def heightLayout : Layout (Option UInt16) :=
  Layout.uint16.convert some fun height => height.getD 0

/-- Where the column is, how many sub-chunks it has, and its data. The height follows the
count that announces it. -/
def layout (version : Version) : Layout LevelChunk :=
  (Layout.varInt32.pair (Layout.varInt32.pair
    ((Layout.onlyIf version.hasChunkDimension Layout.varInt32 0).pair
    ((Layout.varUInt32.chain fun count =>
      Layout.onlyIf (count = requestLimited) heightLayout none).pair
    ((Layout.optional (Layout.list Layout.uint64)).pair Layout.byteArray))))).convert
    (fun (chunkX, chunkZ, dimension, (count, highest), blobIds, data) =>
      ⟨chunkX, chunkZ, dimension, count, highest, blobIds, data⟩)
    (fun packet => (packet.chunkX, packet.chunkZ, packet.dimension,
      (packet.subChunkCount, packet.highestSubChunk), packet.blobIds, packet.data))

/-- How many sections of biomes a column has. -/
def biomeSections : Nat := 24

/-- A column without sub-chunks: every section has one biome, and there are no border blocks. -/
def empty (chunkX chunkZ dimension : Int32) : LevelChunk where
  chunkX := chunkX
  chunkZ := chunkZ
  dimension := dimension
  subChunkCount := 0
  highestSubChunk := none
  blobIds := none
  data := (List.replicate biomeSections [1, 0]).flatten ++ [0]

/-- Whether the data begin with the counted sub-chunks. -/
def hasInlineSubChunks (packet : LevelChunk) : Bool :=
  packet.subChunkCount ≠ requestUnlimited && packet.subChunkCount ≠ requestLimited &&
    packet.blobIds.isNone

end LevelChunk

/-- An answer about one sub-chunk. -/
structure SubChunkEntry where
  offsetX : Int8
  offsetY : Int8
  offsetZ : Int8
  result : UInt8
  /-- The sub-chunk and its block entities. -/
  payload : Bytes
  heightMapType : UInt8
  heightMap : Bytes
  blobHash : Option UInt64
  deriving DecidableEq, Repr, Inhabited

namespace SubChunkEntry

/-- The sub-chunk was found. -/
def success : UInt8 := 1

/-- The sub-chunk was found and holds nothing. -/
def successAllAir : UInt8 := 6

/-- The height map is there. -/
def heightMapHasData : UInt8 := 1

/-- The size of a height map, one byte for each column of blocks. -/
def heightMapSize : Nat := 256

/-- Only with the cache is the payload of an empty sub-chunk left out. -/
def hasPayload (result : UInt8) (cached : Bool) : Bool :=
  result ≠ successAllAir || !cached

/-- A hash that is missing is written as 0. -/
def hashLayout : Layout (Option UInt64) :=
  Layout.uint64.convert some fun hash => hash.getD 0

/-- An entry of a packet that says whether sub-chunks are cached. What the result and the
type of the height map call for follows them. -/
def layout (cached : Bool) : Layout SubChunkEntry :=
  (Layout.int8.pair (Layout.int8.pair (Layout.int8.pair
    ((Layout.byte.chain fun result =>
      Layout.onlyIf (hasPayload result cached) Layout.byteArray []).pair
    ((Layout.byte.chain fun type =>
      Layout.onlyIf (type = heightMapHasData) (Layout.bytesOf heightMapSize) []).pair
    (Layout.onlyIf cached hashLayout none)))))).convert
    (fun (x, y, z, (result, payload), (heightMapType, heightMap), hash) =>
      ⟨x, y, z, result, payload, heightMapType, heightMap, hash⟩)
    (fun entry => (entry.offsetX, entry.offsetY, entry.offsetZ, (entry.result, entry.payload),
      (entry.heightMapType, entry.heightMap), entry.blobHash))

end SubChunkEntry

/-- Sub-chunks that the client has asked for. -/
structure SubChunk where
  cacheEnabled : Bool
  dimension : Int32
  /-- The sub-chunk that the entries' offsets count from. -/
  center : IntVector
  entries : List SubChunkEntry
  deriving DecidableEq, Repr

/-- Whether sub-chunks are cached, the place, and the entries behind their number in four
bytes. -/
def SubChunk.layout : Layout SubChunk :=
  (Layout.bool.chain fun cached =>
    Layout.varInt32.pair (IntVector.layout.pair
      (Layout.counted Layout.count32 (SubChunkEntry.layout cached)))).convert
    (fun (cached, dimension, center, entries) => ⟨cached, dimension, center, entries⟩)
    (fun packet => (packet.cacheEnabled, packet.dimension, packet.center, packet.entries))

/-- Sends the client to a dimension: 0 is the overworld, 1 the nether, 2 the end. -/
structure ChangeDimension where
  dimension : Int32
  position : Vector
  respawn : Bool
  loadingScreenId : Option UInt32
  deriving DecidableEq, Repr

/-- The dimension, the place, and the loading screen in versions that have it. -/
def ChangeDimension.layout (version : Version) : Layout ChangeDimension :=
  (Layout.varInt32.pair (Vector.layout.pair (Layout.bool.pair
    (Layout.onlyIf version.hasLoadingScreenId (Layout.optional Layout.uint32) none)))).convert
    (fun (dimension, position, respawn, screen) => ⟨dimension, position, respawn, screen⟩)
    (fun packet =>
      (packet.dimension, packet.position, packet.respawn, packet.loadingScreenId))

/-- Says which chunks the client should keep. -/
structure NetworkChunkPublisherUpdate where
  position : BlockPosition
  radius : UInt32
  savedChunks : List ChunkPosition
  deriving DecidableEq, Repr

/-- The place, how far to keep chunks around it, and the chunks to keep beyond that. -/
def NetworkChunkPublisherUpdate.layout : Layout NetworkChunkPublisherUpdate :=
  (BlockPosition.layout.pair (Layout.varUInt32.pair
    (Layout.counted Layout.count32 ChunkPosition.layout))).convert
    (fun (position, radius, savedChunks) => ⟨position, radius, savedChunks⟩)
    (fun packet => (packet.position, packet.radius, packet.savedChunks))

end Ferry
