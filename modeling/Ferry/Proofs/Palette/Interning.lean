import Ferry.Palette.Sharing
import Ferry.Proofs.Palette.Entries

/-!
# Which tables share an instance

Palettes share an instance if they have the same digest. What enters the digest of an entry is its
number and its name, and a zero that closes the name. A name can hold a zero as well, and then the
bytes of one table may be those of another: a longer name takes in the entries behind a shorter
one. Nothing else makes the bytes of two tables the same, so tables of names without a zero are
told apart.
-/

namespace Ferry

/-- The zero character is one byte. -/
theorem ofString_zero : Bytes.ofString "\x00" = [0] := by decide

/-- A name whose bytes go on behind a zero goes on behind a zero itself. -/
theorem goesOn_iff {name other : String} {bytes : Bytes} :
    Bytes.ofString other = Bytes.ofString name ++ 0 :: bytes ↔
      ∃ tail, other = name ++ "\x00" ++ tail ∧ Bytes.ofString tail = bytes := by
  have closed : Bytes.ofString name ++ 0 :: bytes = Bytes.ofString (name ++ "\x00") ++ bytes := by
    simp [ofString_zero]
  rw [closed, Bytes.ofString_eq_append_iff]

/-- One name that is closed by a zero makes the same bytes with what follows as a name that goes on
behind a zero does, if the rest of that name is what follows. -/
theorem closed_goesOn {name tail : String} {rest more : Bytes}
    (spelled : rest = Bytes.ofString tail ++ 0 :: more) :
    Bytes.ofString name ++ 0 :: rest =
      Bytes.ofString (name ++ "\x00" ++ tail) ++ 0 :: more := by
  simp [ofString_zero, spelled]

/-- A name that is no shorter than another, with the same behind them: it is that name, or it goes
on behind a zero with what the other has behind it. -/
theorem closed_longer {name other : String} {further rest more : Bytes}
    (longer : Bytes.ofString other = Bytes.ofString name ++ further)
    (left : 0 :: rest = further ++ 0 :: more) : (name = other ∧ rest = more) ∨
      ∃ tail, other = name ++ "\x00" ++ tail ∧ rest = Bytes.ofString tail ++ 0 :: more := by
  cases further with
  | nil =>
    rw [List.append_nil, Bytes.ofString_inj] at longer
    exact .inl ⟨longer.symm, List.tail_eq_of_cons_eq left⟩
  | cons zero further =>
    obtain ⟨rfl, rest⟩ := List.cons_eq_cons.mp left
    obtain ⟨tail, goesOn, rfl⟩ := goesOn_iff.mp longer
    exact .inr ⟨tail, goesOn, rest⟩

/-- Two names that are closed by a zero make the same bytes with what follows exactly if they are
the same with the same behind them, or if one goes on behind a zero with what the other has behind
it. -/
theorem closed_eq_iff {name other : String} {rest more : Bytes} :
    Bytes.ofString name ++ 0 :: rest = Bytes.ofString other ++ 0 :: more ↔
      (name = other ∧ rest = more) ∨
      (∃ tail, other = name ++ "\x00" ++ tail ∧ rest = Bytes.ofString tail ++ 0 :: more) ∨
      ∃ tail, name = other ++ "\x00" ++ tail ∧ more = Bytes.ofString tail ++ 0 :: rest := by
  constructor
  · intro same
    rcases List.append_eq_append_iff.mp same with ⟨further, longer, left⟩ | ⟨further, longer, left⟩
    · rcases closed_longer longer left with equal | goesOn
      · exact .inl equal
      · exact .inr (.inl goesOn)
    · rcases closed_longer longer left with ⟨rfl, rfl⟩ | goesOn
      · exact .inl ⟨rfl, rfl⟩
      · exact .inr (.inr goesOn)
  · rintro (⟨rfl, rfl⟩ | ⟨tail, rfl, spelled⟩ | ⟨tail, rfl, spelled⟩)
    · rfl
    · exact closed_goesOn spelled
    · exact (closed_goesOn spelled).symm

namespace Palette

variable {ι : Type}

/-- Two palettes find the same. -/
structure Alike [DecidableEq ι] (left right : Palette ι) : Prop where
  names : ∀ id, left.nameOf? id = right.nameOf? id
  ids : ∀ name, left.idOf? name = right.idOf? name

/-- A palette is found the same as itself. -/
theorem Alike.refl [DecidableEq ι] (palette : Palette ι) : Alike palette palette :=
  ⟨fun _ => rfl, fun _ => rfl⟩

/-- What is found the same in one palette is so in the other. -/
theorem Alike.symm [DecidableEq ι] {left right : Palette ι} (alike : Alike left right) :
    Alike right left :=
  ⟨fun id => (alike.names id).symm, fun name => (alike.ids name).symm⟩

/-- A number with a name is listed. -/
theorem id_mem_of_nameOf? [DecidableEq ι] {entries : List (PaletteEntry ι)} {id : ι} {name : String}
    (named : (Palette.mk entries).nameOf? id = some name) : id ∈ entries.map PaletteEntry.id := by
  obtain ⟨entry, found, -⟩ := Option.map_eq_some_iff.mp named
  have same : entry.id = id := by simpa using List.find?_some found
  exact List.mem_map.mpr ⟨entry, List.mem_of_find?_eq_some found, same⟩

variable [PaletteKind ι] {first second : List (PaletteEntry ι)}

/-- A name of the second row takes in entries of the first: up to it the rows are the same, and it
is a name of the first row that goes on behind a zero. What it goes on with spells, with the entries
behind it, the entries behind the shorter name. -/
inductive TakenIn : List (PaletteEntry ι) → List (PaletteEntry ι) → Prop
  | here {name tail : String} {id : ι} {rest others : List (PaletteEntry ι)}
      (spelled : rest.flatMap entryBytes =
        Bytes.ofString tail ++ 0 :: others.flatMap entryBytes) :
      TakenIn (⟨name, id⟩ :: rest) (⟨name ++ "\x00" ++ tail, id⟩ :: others)
  | behind {first second : List (PaletteEntry ι)} (entry : PaletteEntry ι)
      (taken : TakenIn first second) : TakenIn (entry :: first) (entry :: second)

/-- The name that takes in what follows another holds a zero. -/
theorem TakenIn.zero (taken : TakenIn first second) :
    ∃ entry ∈ second, '\x00' ∈ entry.name.toList := by
  induction taken with
  | @here name tail id rest others _ =>
    exact ⟨⟨name ++ "\x00" ++ tail, id⟩, List.mem_cons_self, by simp⟩
  | behind entry _ ih =>
    obtain ⟨other, mem, zero⟩ := ih
    exact ⟨other, List.mem_cons_of_mem entry mem, zero⟩

/-- Whichever of the two rows it is that lists no number twice, a name that takes in what follows
another is found in its place. -/
theorem TakenIn.differs [DecidableEq ι] (taken : TakenIn first second)
    (different : (first.map PaletteEntry.id).Nodup ∨ (second.map PaletteEntry.id).Nodup) :
    ∃ id name tail, (Palette.mk first).nameOf? id = some name ∧
      (Palette.mk second).nameOf? id = some (name ++ "\x00" ++ tail) := by
  induction taken with
  | @here name tail id rest others _ => exact ⟨id, name, tail, by simp [nameOf?], by simp [nameOf?]⟩
  | @behind first second entry _ ih =>
    simp only [List.map_cons, List.nodup_cons] at different
    obtain ⟨id, name, tail, short, long⟩ :=
      ih (different.imp (fun alone => alone.2) (fun alone => alone.2))
    -- the number is listed further on in both rows, so that it is not the number in front
    have other : entry.id ≠ id := by
      rintro rfl
      rcases different with ⟨alone, -⟩ | ⟨alone, -⟩
      · exact alone (id_mem_of_nameOf? short)
      · exact alone (id_mem_of_nameOf? long)
    refine ⟨id, name, tail, ?_, ?_⟩
    · rw [nameOf?, List.find?_cons_of_neg (by simpa using other)]
      exact short
    · rw [nameOf?, List.find?_cons_of_neg (by simpa using other)]
      exact long

/-- A name does not go on behind itself. -/
theorem TakenIn.not_alike [DecidableEq ι] (taken : TakenIn first second)
    (different : (first.map PaletteEntry.id).Nodup ∨ (second.map PaletteEntry.id).Nodup) :
    ¬Alike (Palette.mk first) (Palette.mk second) := by
  intro alike
  obtain ⟨id, name, tail, short, long⟩ := taken.differs different
  have same : name = name ++ "\x00" ++ tail :=
    Option.some.inj (short.symm.trans ((alike.names id).trans long))
  have lengths := congrArg String.length same
  rw [String.length_append, String.length_append] at lengths
  have zero : "\x00".length = 1 := rfl
  omega

/-- An entry begins with its digits and goes on with its name and a zero. -/
theorem entryBytes_append (entry : PaletteEntry ι) (rest : Bytes) : entryBytes entry ++ rest =
    PaletteKind.digits entry.id ++ (Bytes.ofString entry.name ++ 0 :: rest) := by
  simp [entryBytes]

variable [LE ι] [PaletteKind.Lawful ι]

/-- The first entries of two rows have the same number, and their names are closed by a zero. -/
theorem entryBytes_append_eq_iff {entry other : PaletteEntry ι} {rest more : Bytes} :
    entryBytes entry ++ rest = entryBytes other ++ more ↔ entry.id = other.id ∧
      Bytes.ofString entry.name ++ 0 :: rest = Bytes.ofString other.name ++ 0 :: more := by
  rw [entryBytes_append, entryBytes_append]
  constructor
  · intro same
    have widths : (PaletteKind.digits entry.id).length = (PaletteKind.digits other.id).length := by
      rw [PaletteKind.Lawful.length_digits, PaletteKind.Lawful.length_digits]
    obtain ⟨digits, names⟩ := List.append_inj same widths
    exact ⟨PaletteKind.Lawful.digits_inj.mp digits, names⟩
  · rintro ⟨id, names⟩
    rw [id, names]

/-- Where a name takes in entries, the bytes are the same. -/
theorem TakenIn.same (taken : TakenIn first second) :
    first.flatMap entryBytes = second.flatMap entryBytes := by
  induction taken with
  | here spelled =>
    rw [List.flatMap_cons, List.flatMap_cons, entryBytes_append_eq_iff]
    exact ⟨rfl, closed_goesOn spelled⟩
  | behind entry _ ih => rw [List.flatMap_cons, List.flatMap_cons, ih]

/-- Two rows of entries enter the digest as the same bytes exactly if they are the same, or if a
name of one takes in entries of the other. -/
theorem flatMap_entryBytes_eq_iff : first.flatMap entryBytes = second.flatMap entryBytes ↔
    first = second ∨ TakenIn first second ∨ TakenIn second first := by
  constructor
  · intro same
    induction first generalizing second with
    | nil =>
      cases second with
      | nil => exact .inl rfl
      | cons other second => simp [entryBytes] at same
    | cons entry first ih =>
      cases second with
      | nil => simp [entryBytes] at same
      | cons other second =>
        obtain ⟨name, id⟩ := entry
        obtain ⟨further, number⟩ := other
        rw [List.flatMap_cons, List.flatMap_cons, entryBytes_append_eq_iff, closed_eq_iff] at same
        dsimp only at same
        obtain ⟨rfl, ⟨rfl, rest⟩ | ⟨tail, rfl, spelled⟩ | ⟨tail, rfl, spelled⟩⟩ := same
        · rcases ih rest with rfl | taken | taken
          · exact .inl rfl
          · exact .inr (.inl (.behind _ taken))
          · exact .inr (.inr (.behind _ taken))
        · exact .inr (.inl (.here spelled))
        · exact .inr (.inr (.here spelled))
  · rintro (rfl | taken | taken)
    · rfl
    · exact taken.same
    · exact taken.same.symm

/-- Two palettes enter the digest as the same bytes exactly if the same entries are listed for them,
or if a name of one takes in entries of the other. -/
theorem hashInput_ofEntries_eq_iff {left right : List (PaletteEntry ι)} :
    (ofEntries left).hashInput = (ofEntries right).hashInput ↔ left.Perm right ∨
      TakenIn (ofEntries left).entries (ofEntries right).entries ∨
      TakenIn (ofEntries right).entries (ofEntries left).entries := by
  have same : (ofEntries left).entries = (ofEntries right).entries ↔ left.Perm right := by
    constructor
    · intro same
      exact (List.mergeSort_perm left precedes).symm.trans
        ((List.Perm.of_eq same).trans (List.mergeSort_perm right precedes))
    · intro same
      rw [ofEntries_congr same]
  rw [hashInput, hashInput, List.append_cancel_left_eq, flatMap_entryBytes_eq_iff, same]

/-- Where no name holds a zero, lists that enter the digest as the same bytes list the same
entries. -/
theorem perm_of_hashInput_eq {left right : List (PaletteEntry ι)}
    (same : (ofEntries left).hashInput = (ofEntries right).hashInput)
    (plain : ∀ entry ∈ left ++ right, '\x00' ∉ entry.name.toList) : left.Perm right := by
  rcases hashInput_ofEntries_eq_iff.mp same with perm | taken | taken
  · exact perm
  · obtain ⟨entry, mem, zero⟩ := taken.zero
    exact absurd zero (plain entry (List.mem_append_right left (List.mem_mergeSort.mp mem)))
  · obtain ⟨entry, mem, zero⟩ := taken.zero
    exact absurd zero (plain entry (List.mem_append_left right (List.mem_mergeSort.mp mem)))

end Palette

/-! ## Instances -/

namespace PaletteRegistry

open Palette

variable {ι : Type} [PaletteKind ι] {registry : PaletteRegistry ι} {palette : Palette ι}
  {shared : SharedPalette ι}

/-- An instance is the one that a registry gives out for a palette. -/
def Gives (registry : PaletteRegistry ι) (palette : Palette ι) (shared : SharedPalette ι) : Prop :=
  registry.instances.find? (fun held => held.palette.digest = palette.digest) = some shared

/-- What is interned is given out for its palette. -/
theorem intern_gives (registry : PaletteRegistry ι) (candidate : SharedPalette ι) :
    (registry.intern candidate).2.Gives candidate.palette (registry.intern candidate).1 := by
  unfold intern Gives
  dsimp only
  cases known : registry.instances.find?
    fun held => held.palette.digest = candidate.palette.digest with
  | some held => exact known
  | none => simp [List.find?_append, known]

/-- What has been given out is given out again, whatever comes between. -/
theorem Gives.intern (gives : registry.Gives palette shared) (other : SharedPalette ι) :
    (registry.intern other).2.Gives palette shared := by
  unfold PaletteRegistry.intern Gives at *
  dsimp only
  cases registry.instances.find? fun held => held.palette.digest = other.palette.digest with
  | some held => exact gives
  | none => simp [List.find?_append, gives]

/-- The instance that is given out has the digest of the palette. -/
theorem Gives.digest (gives : registry.Gives palette shared) :
    shared.palette.digest = palette.digest := by
  simpa using List.find?_some gives

/-- Another palette of the same digest is given that instance, and none is added. -/
theorem Gives.again {candidate : SharedPalette ι} (gives : registry.Gives palette shared)
    (same : candidate.palette.digest = palette.digest) :
    registry.intern candidate = (shared, registry) := by
  unfold Gives at gives
  rw [← same] at gives
  simp [PaletteRegistry.intern, gives]

/-- A registry gives out the instance that it gave out before for the same digest. -/
theorem intern_again {first second : SharedPalette ι}
    (same : second.palette.digest = first.palette.digest) :
    ((registry.intern first).2.intern second).1 = (registry.intern first).1 := by
  rw [(intern_gives registry first).again same]

/-- A registry gives one instance to two palettes whose bytes are the same. They find the same,
unless a name of one takes in entries of the other; so they do where no name holds a zero. Where the
first of them lists no number twice, they find the same exactly if no name takes anything in. -/
theorem shared_alike_iff [DecidableEq ι] [LE ι] [PaletteKind.Lawful ι]
    (registry : PaletteRegistry ι) (first second : List (PaletteEntry ι))
    (same : (ofEntries first).hashInput = (ofEntries second).hashInput) :
    let one := ofEntries first
    let two := ofEntries second
    let given := registry.share one
    let takes := TakenIn one.entries two.entries ∨ TakenIn two.entries one.entries
    (given.2.share two).1 = given.1 ∧ (Alike one two ∨ takes) ∧
    ((∀ entry ∈ first ++ second, '\x00' ∉ entry.name.toList) → Alike one two) ∧
    ((first.map PaletteEntry.id).Nodup → (Alike one two ↔ ¬takes)) := by
  intro one two given takes
  have digests : two.digest = one.digest := congrArg Blake3.digest same.symm
  have alike (perm : first.Perm second) : Alike one two := by
    have equal : one = two := ofEntries_congr perm
    rw [equal]
    exact .refl two
  have either : Alike one two ∨ takes := (hashInput_ofEntries_eq_iff.mp same).imp_left alike
  refine ⟨intern_again digests, either,
    fun plain => alike (perm_of_hashInput_eq same plain), fun different => ⟨?_, ?_⟩⟩
  · have sorted : (one.entries.map PaletteEntry.id).Nodup :=
      ((List.mergeSort_perm first precedes).map PaletteEntry.id).nodup_iff.mpr different
    rintro same (taken | taken)
    · exact taken.not_alike (.inl sorted) same
    · exact taken.not_alike (.inr sorted) same.symm
  · exact either.resolve_right

/-- Two lists that hold the same entries, in another order. -/
theorem shared_alike_iff_reordered :
    let first : List (PaletteEntry ItemId) := [⟨"sign", 2⟩, ⟨"bed", -7⟩]
    let second : List (PaletteEntry ItemId) := [⟨"bed", -7⟩, ⟨"sign", 2⟩]
    let given := PaletteRegistry.empty.share (ofEntries first)
    (ofEntries first).hashInput = (ofEntries second).hashInput ∧
      (given.2.share (ofEntries second)).1 = given.1 ∧
      Alike (ofEntries first) (ofEntries second) := by
  intro first second given
  have same : (ofEntries first).hashInput = (ofEntries second).hashInput :=
    hashInput_ofEntries_eq_iff.mpr (.inl (by decide))
  obtain ⟨shared, -, alike, -⟩ := shared_alike_iff PaletteRegistry.empty first second same
  exact ⟨same, shared, alike (by decide)⟩

/-- A block whose name is spelled with a zero in it, and then as a second block is: the registry
takes its table for that of the two blocks, and stone is found for its number. -/
theorem shared_differ : ¬∀ (registry : PaletteRegistry BlockId)
    (first second : List (PaletteEntry BlockId)),
    (ofEntries first).hashInput = (ofEntries second).hashInput →
    ((registry.share (ofEntries first)).2.share (ofEntries second)).1 =
      (registry.share (ofEntries first)).1 →
    Alike (ofEntries first) (ofEntries second) := by
  intro always
  let blocks : List (PaletteEntry BlockId) := [⟨"stone", 1⟩, ⟨"dirt", 2⟩]
  let block : List (PaletteEntry BlockId) :=
    [⟨"stone" ++ "\x00" ++ "\x02\x00\x00\x00\x00\x00\x00\x00dirt", 1⟩]
  have sorted : (ofEntries blocks).entries = blocks := List.mergeSort_of_pairwise (by decide)
  have alone : (ofEntries block).entries = block := List.mergeSort_of_pairwise (by decide)
  have taken : TakenIn (ofEntries blocks).entries (ofEntries block).entries := by
    rw [sorted, alone]
    exact .here (by decide)
  have same : (ofEntries blocks).hashInput = (ofEntries block).hashInput :=
    hashInput_ofEntries_eq_iff.mpr (.inr (.inl taken))
  refine taken.not_alike (.inl ?_)
    (always empty blocks block same (intern_again (congrArg Blake3.digest same.symm)))
  rw [sorted]
  decide

end PaletteRegistry

end Ferry
