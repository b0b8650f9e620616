import Ferry.Palette.Basic
import Ferry.Proofs.Wire.TextBytes
import Mathlib.Data.Finset.Card

/-!
# Palettes as tables of their entries

The entries of a palette stand in order, and of the entries that are asked for the first counts.
So a palette finds the least name of a number and the least number of a name, however often
either is listed, and it makes no difference in which order the entries come.
-/

namespace Ferry

/-- What is found first in a list in order is the least of what is looked for. -/
theorem find?_sorted_iff {α : Type} {below : α → α → Prop} {wanted : α → Bool} {values : List α}
    (reflexive : ∀ value, below value value)
    (antisymmetric : ∀ left right, below left right → below right left → left = right)
    (sorted : values.Pairwise below) {value : α} :
    values.find? wanted = some value ↔
      value ∈ values ∧ wanted value = true ∧
        ∀ other ∈ values, wanted other = true → below value other := by
  induction values with
  | nil => simp
  | cons first rest ih =>
    obtain ⟨ahead, sorted⟩ := List.pairwise_cons.mp sorted
    cases here : wanted first with
    | true =>
      rw [List.find?_cons_of_pos here, Option.some.injEq]
      constructor
      · rintro rfl
        exact ⟨List.mem_cons_self, here,
          List.forall_mem_cons.mpr ⟨fun _ => reflexive first, fun other mem _ => ahead other mem⟩⟩
      · rintro ⟨mem, -, least⟩
        rcases List.mem_cons.mp mem with rfl | later
        · rfl
        · exact antisymmetric first value (ahead value later)
            (least first List.mem_cons_self here)
    | false =>
      rw [List.find?_cons_of_neg (by simp [here]), ih sorted, List.mem_cons, List.forall_mem_cons]
      constructor
      · rintro ⟨mem, found, least⟩
        exact ⟨.inr mem, found, fun other => by simp [here] at other, least⟩
      · rintro ⟨rfl | mem, found, -, least⟩
        · simp [here] at found
        · exact ⟨mem, found, least⟩

/-- Nothing is left twice when repetitions are struck out. -/
theorem nodup_eraseDups {α : Type} [DecidableEq α] (values : List α) : values.eraseDups.Nodup := by
  induction length : values.length using Nat.strong_induction_on generalizing values with
  | h count ih =>
    cases values with
    | nil => simp
    | cons first rest =>
      rw [List.eraseDups_cons, List.nodup_cons]
      refine ⟨by simp, ih _ ?_ _ rfl⟩
      rw [← length, List.length_cons]
      exact Nat.lt_succ_of_le (List.length_filter_le _ _)

/-- What numbers are to be for a palette: their places are the order in which they stand, and their
digits, eight each, tell them apart. -/
class PaletteKind.Lawful (ι : Type) [LE ι] [PaletteKind ι] : Prop where
  rank_le_iff {left right : ι} : rank left ≤ rank right ↔ left ≤ right
  rank_inj {left right : ι} : rank left = rank right ↔ left = right
  length_digits (id : ι) : (digits id).length = 8
  digits_inj {left right : ι} : digits left = digits right ↔ left = right

instance : PaletteKind.Lawful BlockId where
  rank_le_iff := Int.ofNat_le
  rank_inj := Int.ofNat_inj.trans UInt32.toNat_inj
  length_digits id := Bytes.length_littleEndian 8 id.toNat
  digits_inj {left right} := by
    have small (id : BlockId) : id.toNat < Nat.pow 256 8 := Nat.lt_trans id.toNat_lt (by decide)
    exact (Bytes.littleEndian_inj (small left) (small right)).trans UInt32.toNat_inj

instance : PaletteKind.Lawful ItemId where
  rank_le_iff := Int32.le_iff_toInt_le.symm
  rank_inj := Int32.toInt_inj
  length_digits id := Bytes.length_littleEndian 8 id.toInt64.toUInt64.toNat
  digits_inj {left right} := by
    have small (id : ItemId) : id.toInt64.toUInt64.toNat < Nat.pow 256 8 :=
      id.toInt64.toUInt64.toNat_lt
    have wide : left.toInt64.toUInt64 = right.toInt64.toUInt64 ↔ left.toInt64 = right.toInt64 :=
      ⟨congrArg UInt64.toInt64, congrArg Int64.toUInt64⟩
    refine (Bytes.littleEndian_inj (small left) (small right)).trans ?_
    rw [UInt64.toNat_inj, wide, ← Int64.toInt_inj, Int32.toInt_toInt64, Int32.toInt_toInt64,
      Int32.toInt_inj]

namespace Palette

variable {ι : Type}

/-- A name that entries list for a number and that is the least of them, byte by byte. -/
structure IsNameOf (entries : List (PaletteEntry ι)) (id : ι) (name : String) : Prop where
  listed : ⟨name, id⟩ ∈ entries
  least : ∀ other, ⟨other, id⟩ ∈ entries → Bytes.ofString name ≤ Bytes.ofString other

/-- A number that entries list for a name and that is the least of them. -/
structure IsIdOf [LE ι] (entries : List (PaletteEntry ι)) (name : String) (id : ι) : Prop where
  listed : ⟨name, id⟩ ∈ entries
  least : ∀ other, ⟨name, other⟩ ∈ entries → id ≤ other

/-- A palette is the table of some entries: it finds the least name of a number and the least number
of a name, where there is one, and counts the numbers. What it finds for what it has found is never
more than it was asked for first. -/
structure Tabulates [DecidableEq ι] [LE ι] (palette : Palette ι)
    (entries : List (PaletteEntry ι)) : Prop where
  names : ∀ id name, palette.nameOf? id = some name ↔ IsNameOf entries id name
  unnamed : ∀ id, palette.nameOf? id = none ↔ ∀ entry ∈ entries, entry.id ≠ id
  ids : ∀ name id, palette.idOf? name = some id ↔ IsIdOf entries name id
  unnumbered : ∀ name, palette.idOf? name = none ↔ ∀ entry ∈ entries, entry.name ≠ name
  size : palette.size = (entries.map PaletteEntry.id).toFinset.card
  backToId : ∀ entry ∈ entries, ∃ name id, palette.nameOf? entry.id = some name ∧
    palette.idOf? name = some id ∧ id ≤ entry.id
  backToName : ∀ entry ∈ entries, ∃ id name, palette.idOf? entry.name = some id ∧
    palette.nameOf? id = some name ∧ Bytes.ofString name ≤ Bytes.ofString entry.name

section Order

variable [PaletteKind ι] {left right other : PaletteEntry ι}
  {entries listed : List (PaletteEntry ι)}

/-- An entry is in front of another by its number, or else by its name. -/
theorem precedes_iff : precedes left right = true ↔
    PaletteKind.rank left.id < PaletteKind.rank right.id ∨
      PaletteKind.rank left.id = PaletteKind.rank right.id ∧ left.name ≤ right.name := by
  simp [precedes]

/-- An entry may stand beside itself. -/
theorem precedes_refl (entry : PaletteEntry ι) : precedes entry entry = true :=
  precedes_iff.mpr (.inr ⟨rfl, String.le_refl entry.name⟩)

/-- The order of entries goes on over others. -/
theorem precedes_trans (first : precedes left right = true)
    (second : precedes right other = true) : precedes left other = true := by
  rw [precedes_iff] at first second ⊢
  rcases first with less | ⟨same, below⟩
  · rcases second with further | ⟨equal, -⟩
    · exact .inl (Int.lt_trans less further)
    · exact .inl (equal ▸ less)
  · rcases second with further | ⟨equal, under⟩
    · exact .inl (same ▸ further)
    · exact .inr ⟨same.trans equal, String.le_trans below under⟩

/-- Of two entries one is in front. -/
theorem precedes_total (left right : PaletteEntry ι) :
    (precedes left right || precedes right left) = true := by
  rw [Bool.or_eq_true, precedes_iff, precedes_iff]
  rcases Int.lt_trichotomy (PaletteKind.rank left.id) (PaletteKind.rank right.id)
    with less | same | more
  · exact .inl (.inl less)
  · rcases String.le_total left.name right.name with below | above
    · exact .inl (.inr ⟨same, below⟩)
    · exact .inr (.inr ⟨same.symm, above⟩)
  · exact .inr (.inl more)

/-- The entries of a palette stand in order. -/
theorem ofEntries_sorted (entries : List (PaletteEntry ι)) :
    (ofEntries entries).entries.Pairwise fun left right => precedes left right = true := by
  apply List.pairwise_mergeSort
  · exact fun _ _ _ first second => precedes_trans first second
  · exact precedes_total

/-- Of the entries of one number the one with the least name comes first. -/
theorem precedes_names_iff (id : ι) (name other : String) :
    precedes ⟨name, id⟩ ⟨other, id⟩ = true ↔ Bytes.ofString name ≤ Bytes.ofString other := by
  rw [precedes_iff, Bytes.ofString_le_iff]
  simp

variable [LE ι] [PaletteKind.Lawful ι]

/-- Entries that are in front of each other are the same. -/
theorem precedes_antisymm (forth : precedes left right = true)
    (back : precedes right left = true) : left = right := by
  rw [precedes_iff] at forth back
  have ranks : PaletteKind.rank left.id = PaletteKind.rank right.id := by omega
  have names : left.name = right.name := by
    rcases forth with less | ⟨-, below⟩
    · omega
    · rcases back with less | ⟨-, above⟩
      · omega
      · exact String.le_antisymm below above
  obtain ⟨name, id⟩ := left
  obtain rfl : name = right.name := names
  obtain rfl : id = right.id := PaletteKind.Lawful.rank_inj.mp ranks
  rfl

/-- Of the entries of one name the one with the least number comes first. -/
theorem precedes_ids_iff (name : String) (id other : ι) :
    precedes ⟨name, id⟩ ⟨name, other⟩ = true ↔ id ≤ other := by
  have ranks : PaletteKind.rank id ≤ PaletteKind.rank other ↔ id ≤ other :=
    PaletteKind.Lawful.rank_le_iff
  have same : name ≤ name := String.le_refl name
  rw [precedes_iff, ← ranks]
  simp only [same, and_true]
  omega

/-- The order in which entries are listed makes no difference. -/
theorem ofEntries_congr (same : listed.Perm entries) : ofEntries listed = ofEntries entries := by
  have sorted : (ofEntries listed).entries = (ofEntries entries).entries :=
    List.Perm.eq_of_pairwise (fun _ _ _ _ => precedes_antisymm) (ofEntries_sorted listed)
      (ofEntries_sorted entries)
      (((List.mergeSort_perm listed _).trans same).trans (List.mergeSort_perm entries _).symm)
  exact congrArg Palette.mk sorted

/-- Of the entries that are asked for the first in order is found. -/
theorem find?_ofEntries_iff {wanted : PaletteEntry ι → Bool} :
    (ofEntries entries).entries.find? wanted = some left ↔ left ∈ entries ∧ wanted left = true ∧
      ∀ other ∈ entries, wanted other = true → precedes left other = true := by
  rw [find?_sorted_iff precedes_refl (fun _ _ => precedes_antisymm) (ofEntries_sorted entries)]
  simp only [ofEntries, List.mem_mergeSort]

end Order

/-! ## Lookups -/

section Lookup

variable [PaletteKind ι] {entries : List (PaletteEntry ι)} {entry : PaletteEntry ι} {id : ι}
  {name : String}

/-- A name without an entry has no number, and every other name has one. -/
theorem idOf?_ofEntries_eq_none_iff :
    (ofEntries entries).idOf? name = none ↔ ∀ entry ∈ entries, entry.name ≠ name := by
  simp [idOf?, ofEntries]

/-- A name that is listed has a number. -/
theorem exists_idOf?_ofEntries (listed : entry ∈ entries) :
    ∃ id, (ofEntries entries).idOf? entry.name = some id := by
  rw [← Option.isSome_iff_exists, Option.isSome_iff_ne_none]
  exact fun unnumbered => idOf?_ofEntries_eq_none_iff.mp unnumbered entry listed rfl

/-- The number of a name is the least that is listed for it. -/
theorem idOf?_ofEntries_eq_some_iff [LE ι] [PaletteKind.Lawful ι] :
    (ofEntries entries).idOf? name = some id ↔ IsIdOf entries name id := by
  simp only [idOf?, Option.map_eq_some_iff, find?_ofEntries_iff, decide_eq_true_eq]
  constructor
  · rintro ⟨⟨_, _⟩, ⟨listed, rfl, least⟩, rfl⟩
    exact ⟨listed, fun other mem => (precedes_ids_iff _ _ _).mp (least ⟨_, other⟩ mem rfl)⟩
  · rintro ⟨listed, least⟩
    refine ⟨⟨name, id⟩, ⟨listed, rfl, ?_⟩, rfl⟩
    rintro ⟨_, other⟩ mem rfl
    exact (precedes_ids_iff _ _ _).mpr (least other mem)

variable [DecidableEq ι]

/-- A number without an entry has no name, and every other number has one. -/
theorem nameOf?_ofEntries_eq_none_iff :
    (ofEntries entries).nameOf? id = none ↔ ∀ entry ∈ entries, entry.id ≠ id := by
  simp [nameOf?, ofEntries]

/-- A number that is listed has a name. -/
theorem exists_nameOf?_ofEntries (listed : entry ∈ entries) :
    ∃ name, (ofEntries entries).nameOf? entry.id = some name := by
  rw [← Option.isSome_iff_exists, Option.isSome_iff_ne_none]
  exact fun unnamed => nameOf?_ofEntries_eq_none_iff.mp unnamed entry listed rfl

/-- The name of a number is the least that is listed for it. -/
theorem nameOf?_ofEntries_eq_some_iff [LE ι] [PaletteKind.Lawful ι] :
    (ofEntries entries).nameOf? id = some name ↔ IsNameOf entries id name := by
  simp only [nameOf?, Option.map_eq_some_iff, find?_ofEntries_iff, decide_eq_true_eq]
  constructor
  · rintro ⟨⟨_, _⟩, ⟨listed, rfl, least⟩, rfl⟩
    exact ⟨listed, fun other mem => (precedes_names_iff _ _ _).mp (least ⟨other, _⟩ mem rfl)⟩
  · rintro ⟨listed, least⟩
    refine ⟨⟨name, id⟩, ⟨listed, rfl, ?_⟩, rfl⟩
    rintro ⟨other, _⟩ mem rfl
    exact (precedes_names_iff _ _ _).mpr (least other mem)

/-- A palette counts numbers, and not entries. -/
theorem size_ofEntries :
    (ofEntries entries).size = (entries.map PaletteEntry.id).toFinset.card := by
  rw [size, ← List.toFinset_card_of_nodup (nodup_eraseDups _)]
  congr 1
  ext id
  simp [ofEntries]

end Lookup

/-- The palette of some entries is their table, in whatever order they are listed, and however often
a name or a number is, and its digest is the same in every order. -/
theorem ofEntries_tabulates [DecidableEq ι] [LE ι] [PaletteKind ι] [PaletteKind.Lawful ι]
    (entries listed : List (PaletteEntry ι)) (same : listed.Perm entries) :
    (ofEntries listed).digest = (ofEntries entries).digest ∧
      (ofEntries listed).Tabulates entries := by
  rw [ofEntries_congr same]
  refine ⟨rfl, ⟨fun _ _ => nameOf?_ofEntries_eq_some_iff, fun _ => nameOf?_ofEntries_eq_none_iff,
    fun _ _ => idOf?_ofEntries_eq_some_iff, fun _ => idOf?_ofEntries_eq_none_iff, size_ofEntries,
    ?_, ?_⟩⟩
  · intro entry mem
    obtain ⟨name, named⟩ := exists_nameOf?_ofEntries mem
    have least : IsNameOf entries entry.id name := nameOf?_ofEntries_eq_some_iff.mp named
    -- the name is listed for this number, so that its own number can only be less
    obtain ⟨id, numbered⟩ := exists_idOf?_ofEntries least.listed
    exact ⟨name, id, named, numbered,
      (idOf?_ofEntries_eq_some_iff.mp numbered).least entry.id least.listed⟩
  · intro entry mem
    obtain ⟨id, numbered⟩ := exists_idOf?_ofEntries mem
    have least : IsIdOf entries entry.name id := idOf?_ofEntries_eq_some_iff.mp numbered
    obtain ⟨name, named⟩ := exists_nameOf?_ofEntries least.listed
    exact ⟨id, name, numbered, named,
      (nameOf?_ofEntries_eq_some_iff.mp named).least entry.name least.listed⟩

/-- An entry that is listed twice, a number with two names and a name with two numbers, one of them
below zero. -/
theorem ofEntries_tabulates_twice :
    let entries : List (PaletteEntry ItemId) := [⟨"sign", 2⟩, ⟨"bed", 2⟩, ⟨"sign", -7⟩, ⟨"bed", 2⟩]
    let listed : List (PaletteEntry ItemId) := [⟨"sign", -7⟩, ⟨"bed", 2⟩, ⟨"bed", 2⟩, ⟨"sign", 2⟩]
    let palette := ofEntries listed
    listed.Perm entries ∧ palette.digest = (ofEntries entries).digest ∧
      palette.nameOf? 2 = some "bed" ∧ palette.idOf? "sign" = some (-7) ∧
      palette.nameOf? 0 = none ∧ palette.size = 2 := by
  intro entries listed palette
  have same : listed.Perm entries := by decide
  obtain ⟨digest, table⟩ := ofEntries_tabulates entries listed same
  refine ⟨same, digest, (table.names 2 "bed").mpr ⟨by decide, fun other mem => ?_⟩,
    (table.ids "sign" (-7)).mpr ⟨by decide, fun other mem => ?_⟩,
    (table.unnamed 0).mpr (by decide), table.size.trans (by decide)⟩
  · obtain rfl | rfl : other = "sign" ∨ other = "bed" := by simpa [entries] using mem
    · decide
    · decide
  · obtain rfl | rfl : other = 2 ∨ other = -7 := by simpa [entries] using mem
    · decide
    · decide

end Palette

end Ferry
