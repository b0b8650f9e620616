import Ferry.Digest.Blake3

/-!
# Palettes: tables of names and numbers

A backend numbers its blocks and its items in a way of its own; a palette is such a
numbering. Its entries are kept in one order, by number and then by name, so a
palette does not depend on the order in which it was listed: among the entries of one
number the least name counts, and among the entries of one name the least number.
The digest identifies the contents.
-/

namespace Ferry

/-- The number of a block on one backend. -/
abbrev BlockId := UInt32

/-- The number of an item on one backend. -/
abbrev ItemId := Int32

/-- What a palette can number. -/
class PaletteKind (ι : Type) where
  /-- What the kind is called. -/
  kindName : String
  /-- The place of a number in the order of the entries. -/
  rank : ι → Int
  /-- The eight bytes by which a number enters the digest. -/
  digits : ι → Bytes
  /-- What stands for a number without a counterpart in a palette, given the
  numbers that the palette has for names. -/
  substitute : (String → Option ι) → ι → ι

/-- The block that is shown in place of an unknown one. -/
def unknownBlock : String := "minecraft:info_update"

/-- A block without a counterpart becomes the unknown block, or keeps its number where
the palette has no unknown block. -/
instance : PaletteKind BlockId where
  kindName := "block"
  rank id := id.toNat
  digits id := Bytes.littleEndian 8 id.toNat
  substitute idOf? id := (idOf? unknownBlock).getD id

/-- An item without a counterpart becomes air. -/
instance : PaletteKind ItemId where
  kindName := "item"
  rank id := id.toInt
  digits id := Bytes.littleEndian 8 id.toInt64.toUInt64.toNat
  substitute _ _ := 0

/-- A name and its number. -/
structure PaletteEntry (ι : Type) where
  name : String
  id : ι
  deriving DecidableEq, Repr

/-- A palette, its entries in order. -/
structure Palette (ι : Type) where
  entries : List (PaletteEntry ι)

namespace Palette

variable {ι : Type} [DecidableEq ι] [PaletteKind ι]

/-- Entries are ordered by number and then by name. -/
def precedes (left right : PaletteEntry ι) : Bool :=
  let leftRank := PaletteKind.rank left.id
  let rightRank := PaletteKind.rank right.id
  leftRank < rightRank || (leftRank = rightRank && decide (left.name ≤ right.name))

/-- The palette of some entries, in whatever order they are listed. -/
def ofEntries (entries : List (PaletteEntry ι)) : Palette ι :=
  ⟨entries.mergeSort precedes⟩

/-- The palette without entries. -/
def empty : Palette ι := ofEntries []

/-- The name of a number: the least one, where several are listed. -/
def nameOf? (palette : Palette ι) (id : ι) : Option String :=
  (palette.entries.find? fun entry => entry.id = id).map PaletteEntry.name

/-- The number of a name: the least one, where several are listed. -/
def idOf? (palette : Palette ι) (name : String) : Option ι :=
  (palette.entries.find? fun entry => entry.name = name).map PaletteEntry.id

/-- How many numbers have a name. -/
def size (palette : Palette ι) : Nat :=
  (palette.entries.map PaletteEntry.id).eraseDups.length

/-- Whether the palette has no entries. -/
def isEmpty (palette : Palette ι) : Bool := palette.entries.isEmpty

/-- An entry as it enters the digest. The name is closed by a zero byte. -/
def entryBytes (entry : PaletteEntry ι) : Bytes :=
  PaletteKind.digits entry.id ++ Bytes.ofString entry.name ++ [0]

/-- What the digest is taken of. -/
def hashInput (palette : Palette ι) : Bytes :=
  Bytes.ofString (PaletteKind.kindName ι) ++ palette.entries.flatMap entryBytes

/-- The digest of the contents. -/
def digest (palette : Palette ι) : Bytes :=
  Blake3.digest palette.hashInput

end Palette

end Ferry
