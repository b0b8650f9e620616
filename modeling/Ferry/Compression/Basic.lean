import Ferry.Compression.Inflate
import Ferry.Compression.Snappy

/-!
# How batches are compressed

Newer versions put a tag in front of every batch that names its algorithm, so small
batches can go uncompressed; older versions compress every batch alike and carry no
tag. Before anything is negotiated nothing is compressed.
-/

namespace Ferry

/-- A compression algorithm. -/
inductive Algorithm where
  /-- Raw deflate streams. -/
  | zlib
  | snappy
  | none
  deriving DecidableEq, Repr, Inhabited

namespace Algorithm

/-- Every algorithm. -/
def all : List Algorithm := [zlib, snappy, none]

/-- The tag in front of a batch. -/
def tag : Algorithm → UInt8
  | zlib => 0x00
  | snappy => 0x01
  | none => 0xff

/-- The algorithm with a tag. -/
def ofTag? (tag : UInt8) : Option Algorithm :=
  all.find? fun algorithm => algorithm.tag = tag

/-- The number of an algorithm in the network settings. -/
def networkId : Algorithm → UInt16
  | zlib => 0
  | snappy => 1
  | none => 0xffff

/-- The algorithm with a number in the network settings. -/
def ofNetworkId? (id : UInt16) : Option Algorithm :=
  all.find? fun algorithm => algorithm.networkId = id

/-- What an algorithm is called in a configuration. -/
def name : Algorithm → String
  | zlib => "zlib"
  | snappy => "snappy"
  | none => "none"

/-- The algorithm of a name. -/
def ofName? (name : String) : Option Algorithm :=
  all.find? fun algorithm => algorithm.name = name

end Algorithm

/-- How a connection compresses its batches. -/
inductive Strategy where
  /-- Nothing is negotiated yet. -/
  | disabled
  /-- Every batch alike, without a tag. -/
  | fixed (algorithm : Algorithm)
  /-- Tagged batches; those shorter than the threshold go uncompressed. -/
  | tagged (preferred : Algorithm) (threshold : Nat)
  deriving DecidableEq, Repr, Inhabited

namespace Strategy

/-- Whether a batch that is compressed already may be sent as it is. -/
def accepts : Strategy → Algorithm → Bool
  | disabled, algorithm => algorithm = .none
  | fixed only, algorithm => algorithm = only
  | tagged _ _, _ => true

/-- The algorithm for a batch of some length. -/
def choose : Strategy → (length : Nat) → Algorithm
  | disabled, _ => .none
  | fixed only, _ => only
  | tagged preferred threshold, length => if length < threshold then .none else preferred

/-- Whether batches carry a tag. -/
def hasTag : Strategy → Bool
  | tagged _ _ => true
  | _ => false

/-- A compressed batch behind its tag, if batches carry one. -/
def withTag (strategy : Strategy) (algorithm : Algorithm) (payload : Bytes) : Bytes :=
  if strategy.hasTag then algorithm.tag :: payload else payload

end Strategy

/-- What compresses batches, at whatever effort. The bytes that it makes are its own affair, as
long as they decompress again. -/
structure Compressor where
  zlib : Bytes → Bytes
  snappy : Bytes → Bytes

/-- A compressor that leaves the content as it is, in stored blocks and literals. -/
def Compressor.plain : Compressor := ⟨Deflate.deflate, Snappy.compress⟩

/-- What clients are offered. -/
structure CompressionSettings where
  algorithm : Algorithm
  level : Nat
  /-- The shortest batch that is worth compressing. -/
  threshold : UInt16
  deriving DecidableEq, Repr, Inhabited

/-- What clients are offered where nothing is configured. -/
def CompressionSettings.default : CompressionSettings := ⟨.zlib, 6, 256⟩

end Ferry
