import Ferry.Palette.Sharing
import Ferry.Wire.Tag

/-!
# Blocks inside chunk data

A section of terrain (a sub-chunk) begins with its version. Versions 1, 8 and 9 hold
storages: a flags byte, packed indices and a palette of the blocks that the indices
name. The palette holds block numbers or, in persistent storages, tags. Older versions
hold block numbers directly and end the part of the data that can be walked; newer
ones are refused.

`Column.read` takes chunk data apart, `Column.encode` puts it together again, and
renumbering a column changes nothing but the block numbers of its palettes.
-/

namespace Ferry.Terrain

/-- Why chunk data cannot be walked. -/
inductive Fault where
  | unknownVersion (version : UInt8)
  | invalidBitsPerBlock (bits : UInt8)
  | negativePaletteSize (size : Int32)
  /-- The data end early, or hold a malformed tag. -/
  | truncated (cause : DecodeError)
  deriving DecidableEq, Repr

/-- The wording of a fault. -/
def Fault.message : Fault → String
  | .unknownVersion version => s!"unknown sub-chunk version {version}"
  | .invalidBitsPerBlock bits => s!"invalid bits per block {bits}"
  | .negativePaletteSize size => s!"negative palette size {size.toInt}"
  | .truncated cause => s!"truncated sub-chunk: {cause.message}"

/-- Takes a part off chunk data. -/
abbrev Walker := EStateM Fault Bytes

/-- A reader as a part of a walk. -/
def walk {α : Type} (reader : Reader α) : Walker α := fun input =>
  match reader input with
  | .ok value rest => .ok value rest
  | .error cause rest => .error (.truncated cause) rest

/-- The palette of a storage. -/
inductive StoragePalette where
  | numbers (ids : List Int32)
  | tags (raw : List Bytes)
  deriving DecidableEq, Repr

/-- How many blocks a storage indexes. -/
def blocksPerStorage : Nat := 4096

/-- The widths that an index can have; an index of no bits means a palette of one. -/
def validBits : List Nat := [0, 1, 2, 3, 4, 5, 6, 8, 16]

/-- How many 32-bit words hold the indices. An index does not cross words. -/
def wordCount (bits : Nat) : Nat :=
  if bits = 0 then 0 else (blocksPerStorage + (32 / bits - 1)) / (32 / bits)

/-- A layer of blocks. -/
structure Storage where
  flags : UInt8
  words : Bytes
  palette : StoragePalette
  deriving DecidableEq, Repr

namespace Storage

/-- The width of an index. -/
def bitsOf (flags : UInt8) : Nat := flags.toNat / 2

/-- Whether the palette holds block numbers. -/
def isRuntime (flags : UInt8) : Bool := flags.toNat % 2 = 1

/-- Reads the size of a palette; without indices it is not written, and 1. -/
def paletteSize (bits : Nat) : Walker Nat :=
  if bits = 0 then pure 1
  else do
    let size ← walk Varint.readSigned32
    if size < 0 then throw (.negativePaletteSize size) else pure size.toInt.toNat

/-- Reads a palette of some size. -/
def readPalette (runtime : Bool) (size : Nat) : Walker StoragePalette :=
  if runtime then StoragePalette.numbers <$> walk (Reader.many size Varint.readSigned32)
  else StoragePalette.tags <$> walk (Reader.many size Tag.layout.read)

/-- Reads a storage. -/
def read : Walker Storage := do
  let flags ← walk Reader.byte
  let bits := bitsOf flags
  if !validBits.contains bits then throw (.invalidBitsPerBlock (UInt8.ofNat bits))
  else do
    let words ← walk (Reader.take (4 * wordCount bits))
    let size ← paletteSize bits
    let palette ← readPalette (isRuntime flags) size
    pure ⟨flags, words, palette⟩

/-- Writes a palette behind its size. -/
def encodePalette (bits : Nat) (size : Nat) (entries : Bytes) : Bytes :=
  if bits = 0 then entries else Varint.encodeSigned size ++ entries

/-- Writes a storage. -/
def encode (storage : Storage) : Bytes :=
  let bits := bitsOf storage.flags
  storage.flags :: storage.words ++
    match storage.palette with
    | .numbers ids =>
      encodePalette bits ids.length (ids.flatMap fun id => Varint.encodeSigned id.toInt)
    | .tags raw => encodePalette bits raw.length raw.flatten

end Storage

/-- A sub-chunk that can be walked. -/
structure Section where
  version : UInt8
  /-- The height, in versions that carry it. -/
  height : Option UInt8
  storages : List Storage
  deriving DecidableEq, Repr

namespace Section

/-- Whether block numbers stand directly in the data. -/
def isLegacy (version : UInt8) : Bool :=
  version = 0 || (2 ≤ version && version ≤ 7)

/-- Reads some storages. -/
def readStorages : (count : Nat) → (read : List Storage) → Walker (List Storage)
  | 0, read => pure read.reverse
  | count + 1, read => do
    let storage ← Storage.read
    readStorages count (storage :: read)

/-- Reads what follows the version. -/
def readAfter (version : UInt8) : Walker Section :=
  if version = 1 then do
    let storages ← readStorages 1 []
    pure ⟨version, none, storages⟩
  else if version = 8 then do
    let count ← walk Reader.byte
    let storages ← readStorages count.toNat []
    pure ⟨version, none, storages⟩
  else if version = 9 then do
    let count ← walk Reader.byte
    let height ← walk Reader.byte
    let storages ← readStorages count.toNat []
    pure ⟨version, some height, storages⟩
  else throw (.unknownVersion version)

/-- Writes a section. -/
def encode (part : Section) : Bytes :=
  part.version ::
    (if part.version = 1 then [] else [UInt8.ofNat part.storages.length]) ++
    part.height.toList ++ part.storages.flatMap Storage.encode

end Section

/-- Chunk data: sections and, after them, biomes, block entities and whatever else. -/
structure Column where
  sections : List Section
  tail : Bytes
  deriving DecidableEq, Repr

namespace Column

/-- Reads up to `count` sections, fewer if one is of a legacy version. -/
def readSections : (count : Nat) → (read : List Section) → Walker (List Section)
  | 0, read => pure read.reverse
  | count + 1, read => fun input =>
    match input with
    | [] => .error (.truncated (.endOfStream 1 0)) []
    | version :: rest =>
      if Section.isLegacy version then .ok read.reverse input
      else
        match Section.readAfter version rest with
        | .ok part rest => readSections count (part :: read) rest
        | .error fault rest => .error fault rest

/-- Takes chunk data apart. -/
def read (count : Nat) (data : Bytes) : Except Fault Column :=
  match readSections count [] data with
  | .ok sections tail => .ok ⟨sections, tail⟩
  | .error fault _ => .error fault

/-- Puts chunk data together. -/
def encode (column : Column) : Bytes :=
  column.sections.flatMap Section.encode ++ column.tail

end Column

/-! ## Renumbering the palettes -/

/-- The client's number for a block number in a palette. -/
def renumberId (renumbering : Renumbering BlockId) (id : Int32) : Int32 :=
  (renumbering.toClient id.toUInt32).toInt32

/-- Renumbers the numbers of a palette. -/
def StoragePalette.renumber (renumbering : Renumbering BlockId) :
    StoragePalette → StoragePalette
  | .numbers ids => .numbers (ids.map (renumberId renumbering))
  | .tags raw => .tags raw

/-- Renumbers a storage. -/
def Storage.renumber (renumbering : Renumbering BlockId) (storage : Storage) : Storage :=
  { storage with palette := storage.palette.renumber renumbering }

/-- Renumbers a section. -/
def Section.renumber (renumbering : Renumbering BlockId) (part : Section) : Section :=
  { part with storages := part.storages.map (Storage.renumber renumbering) }

/-- Renumbers a column. -/
def Column.renumber (renumbering : Renumbering BlockId) (column : Column) : Column :=
  { column with sections := column.sections.map (Section.renumber renumbering) }

/-- Chunk data with the block numbers of their first `count` sections renumbered for the
client; nothing if no number changes. -/
def renumber (renumbering : Renumbering BlockId) (count : Nat) (data : Bytes) :
    Except Fault (Option Bytes) :=
  if renumbering.isIdentity || count = 0 then .ok none
  else do
    let column ← Column.read count data
    let renumbered := column.renumber renumbering
    if renumbered = column then .ok none else .ok (some renumbered.encode)

end Ferry.Terrain
