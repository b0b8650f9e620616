import Ferry.Proofs.Wire.TagGrammar
import Ferry.Terrain
import Mathlib.Data.List.Forall2

/-!
# What a walk of chunk data finds

The grammar of chunk data, apart from their reader: up to so many sections, spelled one behind
the other, and a tail. A number in a palette may be spelled in more bytes than it takes when it is
written, so data are not given back byte for byte; what is found in them is. Renumbering fails
exactly where nothing can be found, leaves the data alone exactly where no number changes, and
otherwise leads to data in which the same is found, but for the numbers.
-/

namespace Ferry

namespace Reader

variable {α : Type} {reader : Reader α} {form : Bytes → α → Prop}

/-- Whether a byte string is so many values in a row, found behind those that were read before, the
last of them first. -/
def InRow (form : Bytes → α → Prop) (count : Nat) (read : List α) (taken : Bytes)
    (values : List α) : Prop :=
  ∃ (pieces : List Bytes) (more : List α), List.Forall₂ form pieces more ∧ more.length = count ∧
    values = read.reverse ++ more ∧ taken = pieces.flatten

/-- No value in a row adds nothing to those that were read before. -/
theorem inRow_zero_iff {read values : List α} {taken : Bytes} :
    InRow form 0 read taken values ↔ taken = [] ∧ values = read.reverse := by
  constructor
  · rintro ⟨_, more, spelled, empty, rfl, rfl⟩
    obtain rfl := List.length_eq_zero_iff.mp empty
    cases spelled
    exact ⟨rfl, by simp⟩
  · rintro ⟨rfl, rfl⟩
    exact ⟨[], [], .nil, rfl, by simp, rfl⟩

/-- One value more in a row stands in front of the others. -/
theorem inRow_succ_iff {count : Nat} {read values : List α} {taken : Bytes} :
    InRow form (count + 1) read taken values ↔ ∃ front back value,
      form front value ∧ InRow form count (value :: read) back values ∧ taken = front ++ back := by
  constructor
  · rintro ⟨_, _, spelled, long, rfl, rfl⟩
    cases spelled with
    | nil => cases long
    | cons first spelled =>
      exact ⟨_, _, _, first, ⟨_, _, spelled, Nat.succ_inj.mp long, by simp, rfl⟩, by simp⟩
  · rintro ⟨front, _, value, first, ⟨pieces, more, spelled, rfl, rfl, rfl⟩, rfl⟩
    exact ⟨front :: pieces, value :: more, .cons first spelled, rfl, by simp, rfl⟩

/-- A reader that is run so many times takes so many values in a row. -/
theorem takes_manyOnto {count : Nat} {read : List α} (element : reader.Takes form) :
    (manyOnto reader count read).Takes (InRow form count read) := by
  induction count generalizing read with
  | zero => exact takes_pure.congr fun _ _ => inRow_zero_iff.symm
  | succ count ih => exact (element.bind fun _ => ih).congr fun _ _ => inRow_succ_iff.symm

/-- Values in a row have their written forms in a row. -/
theorem takes_many {count : Nat} (element : reader.Takes form) :
    (many count reader).Takes fun taken values => ∃ pieces : List Bytes,
      List.Forall₂ form pieces values ∧ values.length = count ∧ taken = pieces.flatten := by
  refine (takes_manyOnto element).congr fun taken values => ?_
  constructor
  · rintro ⟨pieces, _, spelled, long, rfl, whole⟩
    exact ⟨pieces, spelled, long, whole⟩
  · rintro ⟨pieces, spelled, long, whole⟩
    exact ⟨pieces, values, spelled, long, rfl, whole⟩

end Reader

namespace Terrain

section Walkers

variable {α β : Type} {walker : Walker α} {form : Bytes → α → Prop}

/-- A walker takes a byte string off its input as a value exactly when that is a written form of
the value, whatever follows. -/
def Walker.Takes (walker : Walker α) (form : Bytes → α → Prop) : Prop :=
  ∀ input value rest, walker input = .ok value rest ↔
    ∃ taken, form taken value ∧ input = taken ++ rest

/-- What a walk takes may be said in other words. -/
theorem Walker.Takes.congr {other : Bytes → α → Prop} (takes : walker.Takes form)
    (same : ∀ taken value, form taken value ↔ other taken value) : walker.Takes other := by
  intro input value rest
  rw [takes input value rest]
  simp only [same]

/-- A walk takes what the reader takes that it runs. -/
theorem takes_walk {reader : Reader α} (takes : reader.Takes form) : (walk reader).Takes form := by
  intro input value rest
  rw [← takes input value rest]
  unfold walk
  cases reader input with
  | ok found left => simp
  | error cause left => simp

/-- A walk that goes nowhere takes nothing. -/
theorem takes_pure {value : α} :
    (pure value : Walker α).Takes fun taken found => taken = [] ∧ found = value := by
  intro input found rest
  change EStateM.Result.ok value input = .ok found rest ↔ _
  constructor
  · intro same
    cases same
    exact ⟨[], ⟨rfl, rfl⟩, rfl⟩
  · rintro ⟨_, ⟨rfl, rfl⟩, rfl⟩
    rfl

/-- A walk that fails takes nothing that would be anything. -/
theorem takes_throw {fault : Fault} : (throw fault : Walker α).Takes fun _ _ => False := by
  intro input value rest
  change EStateM.Result.error fault input = .ok value rest ↔ _
  simp

/-- Two walks behind one another take their bytes one behind the other. -/
theorem Walker.Takes.bind {next : α → Walker β} {forms : α → Bytes → β → Prop}
    (first : walker.Takes form) (second : ∀ value, (next value).Takes (forms value)) :
    (walker >>= next).Takes fun taken found => ∃ front back value,
      form front value ∧ forms value back found ∧ taken = front ++ back := by
  intro input found rest
  change EStateM.bind walker next input = _ ↔ _
  unfold EStateM.bind
  constructor
  · intro walked
    cases ran : walker input with
    | error fault left => simp [ran] at walked
    | ok value left =>
      simp only [ran] at walked
      obtain ⟨front, ahead, rfl⟩ := (first _ _ _).mp ran
      obtain ⟨back, behind, rfl⟩ := (second value _ _ _).mp walked
      exact ⟨front ++ back, ⟨front, back, value, ahead, behind, rfl⟩, by simp⟩
  · rintro ⟨_, ⟨front, back, value, ahead, behind, rfl⟩, rfl⟩
    have ran : walker (front ++ (back ++ rest)) = .ok value (back ++ rest) :=
      (first _ _ _).mpr ⟨front, ahead, rfl⟩
    rw [List.append_assoc]
    simp only [ran]
    exact (second value _ _ _).mpr ⟨back, behind, rfl⟩

/-- A value that is changed after it was found keeps its written forms. -/
theorem Walker.Takes.map {change : α → β} (takes : walker.Takes form) :
    (change <$> walker).Takes fun taken found => ∃ value, form taken value ∧
      found = change value := by
  intro input found rest
  change EStateM.map change walker input = _ ↔ _
  unfold EStateM.map
  constructor
  · intro walked
    cases ran : walker input with
    | error fault left => simp [ran] at walked
    | ok value left =>
      simp only [ran] at walked
      cases walked
      obtain ⟨taken, written, rfl⟩ := (takes _ _ _).mp ran
      exact ⟨taken, ⟨value, written, rfl⟩, rfl⟩
  · rintro ⟨taken, ⟨value, written, rfl⟩, rfl⟩
    have ran : walker (taken ++ rest) = .ok value rest := (takes _ _ _).mpr ⟨taken, written, rfl⟩
    simp only [ran]

end Walkers

/-! ## Storages -/

/-- Whether a byte string is a signed number in groups of seven bits. -/
def SpellsNumber (bytes : Bytes) (number : Int32) : Prop :=
  Varint.IsSpelled bytes ∧ bytes.length ≤ Varint.maxBytes32 ∧
    number = Int32.ofInt (Varint.ofZigzag (Varint.number bytes % UInt32.size))

/-- A signed number is read from where it is spelled. -/
theorem takes_number : Varint.readSigned32.Takes SpellsNumber := Varint.takes_readSigned32

/-- A number is spelled as it is written. -/
theorem spellsNumber_encodeSigned (number : Int32) :
    SpellsNumber (Varint.encodeSigned number.toInt) number :=
  takes_number.whole_iff.mp (Layout.varInt32_total.reads number trivial)

/-- Whether a byte string is the size of a palette for indices of some width. Where there are no
indices the palette holds one block, and its size is left out. -/
def IsPaletteSize (bits : Nat) (bytes : Bytes) (size : Nat) : Prop :=
  if bits = 0 then bytes = [] ∧ size = 1
  else ∃ number, SpellsNumber bytes number ∧ number.toInt = size

/-- Whether byte strings are the entries of a palette: numbers, or tags that nobody looks into. -/
def SpellsEntries (runtime : Bool) (entries : List Bytes) : StoragePalette → Prop
  | .numbers ids => runtime = true ∧ List.Forall₂ SpellsNumber entries ids
  | .tags raw => runtime = false ∧ entries = raw ∧ ∀ tag ∈ raw, Tag.IsTag tag

/-- Whether a byte string is a storage. -/
def Storage.Spells (bytes : Bytes) (storage : Storage) : Prop :=
  ∃ size entries, bitsOf storage.flags ∈ validBits ∧
    storage.words.length = 4 * wordCount (bitsOf storage.flags) ∧
    IsPaletteSize (bitsOf storage.flags) size entries.length ∧
    SpellsEntries (isRuntime storage.flags) entries storage.palette ∧
    bytes = storage.flags :: storage.words ++ size ++ entries.flatten

namespace Storage

/-- The size of a palette is read from where it stands, or known without. -/
theorem takes_paletteSize {bits : Nat} : (paletteSize bits).Takes (IsPaletteSize bits) := by
  unfold paletteSize IsPaletteSize
  by_cases zero : bits = 0
  · simp only [zero, if_true]
    exact takes_pure
  · simp only [zero, if_false]
    have step (number : Int32) : (if number < 0 then throw (.negativePaletteSize number)
        else pure number.toInt.toNat : Walker Nat).Takes fun taken size =>
          taken = [] ∧ number.toInt = size := by
      by_cases negative : number < 0
      · rw [if_pos negative]
        refine takes_throw.congr fun taken size => ?_
        rw [Int32.lt_iff_toInt_lt, Int32.toInt_zero] at negative
        constructor
        · exact False.elim
        · rintro ⟨-, same⟩
          omega
      · rw [if_neg negative]
        refine takes_pure.congr fun taken size => ?_
        rw [Int32.lt_iff_toInt_lt, Int32.toInt_zero] at negative
        constructor
        · rintro ⟨rfl, rfl⟩
          exact ⟨rfl, by omega⟩
        · rintro ⟨rfl, same⟩
          exact ⟨rfl, by omega⟩
    refine ((takes_walk takes_number).bind step).congr fun taken size => ?_
    constructor
    · rintro ⟨front, _, number, spelled, ⟨rfl, same⟩, rfl⟩
      rw [List.append_nil]
      exact ⟨number, spelled, same⟩
    · rintro ⟨number, spelled, same⟩
      exact ⟨taken, [], number, spelled, ⟨rfl, same⟩, (List.append_nil taken).symm⟩

/-- A tag in a palette is kept as the bytes it was read from. -/
theorem takes_tag : Tag.layout.read.Takes fun taken tag => taken = tag ∧ Tag.IsTag tag := by
  refine Tag.takes_skip.spanOf.congr fun taken tag => ?_
  constructor
  · rintro ⟨rfl, _, isTag⟩
    exact ⟨rfl, isTag⟩
  · rintro ⟨rfl, isTag⟩
    exact ⟨rfl, (), isTag⟩

/-- Entries are kept as tags if they are these very tags. -/
theorem spelled_tags_iff {entries raw : List Bytes} :
    List.Forall₂ (fun taken tag => taken = tag ∧ Tag.IsTag tag) entries raw ↔
      entries = raw ∧ ∀ tag ∈ raw, Tag.IsTag tag := by
  constructor
  · intro spelled
    induction spelled with
    | nil => exact ⟨rfl, by simp⟩
    | cons first _ ih =>
      obtain ⟨rfl, isTag⟩ := first
      obtain ⟨rfl, all⟩ := ih
      exact ⟨rfl, List.forall_mem_cons.mpr ⟨isTag, all⟩⟩
  · rintro ⟨rfl, all⟩
    exact List.forall₂_same.mpr fun tag mem => ⟨rfl, all tag mem⟩

/-- A palette is read from where its entries are spelled, one behind the other. -/
theorem takes_readPalette {runtime : Bool} {size : Nat} :
    (readPalette runtime size).Takes fun taken palette => ∃ entries : List Bytes,
      entries.length = size ∧ SpellsEntries runtime entries palette ∧
        taken = entries.flatten := by
  unfold readPalette
  cases runtime with
  | true =>
    rw [if_pos rfl]
    refine (takes_walk (Reader.takes_many takes_number)).map.congr fun taken palette => ?_
    constructor
    · rintro ⟨ids, ⟨entries, spelled, rfl, rfl⟩, rfl⟩
      exact ⟨entries, spelled.length_eq, ⟨rfl, spelled⟩, rfl⟩
    · rintro ⟨entries, rfl, spelled, rfl⟩
      cases palette with
      | numbers ids => exact ⟨ids, ⟨entries, spelled.2, spelled.2.length_eq.symm, rfl⟩, rfl⟩
      | tags raw => cases spelled.1
  | false =>
    rw [if_neg Bool.false_ne_true]
    refine (takes_walk (Reader.takes_many takes_tag)).map.congr fun taken palette => ?_
    constructor
    · rintro ⟨raw, ⟨entries, spelled, rfl, rfl⟩, rfl⟩
      exact ⟨entries, spelled.length_eq, ⟨rfl, spelled_tags_iff.mp spelled⟩, rfl⟩
    · rintro ⟨entries, rfl, spelled, rfl⟩
      cases palette with
      | numbers ids => cases spelled.1
      | tags raw =>
        have pieces := spelled_tags_iff.mpr spelled.2
        exact ⟨raw, ⟨entries, pieces, pieces.length_eq.symm, rfl⟩, rfl⟩

/-- A storage is read exactly where one is spelled. -/
theorem takes_read : read.Takes Spells := by
  have step (flags : UInt8) : (if !validBits.contains (bitsOf flags) then
      throw (.invalidBitsPerBlock (UInt8.ofNat (bitsOf flags)))
      else do
        let words ← walk (Reader.take (4 * wordCount (bitsOf flags)))
        let size ← paletteSize (bitsOf flags)
        let palette ← readPalette (isRuntime flags) size
        pure ⟨flags, words, palette⟩ : Walker Storage).Takes fun taken storage =>
          storage.flags = flags ∧ Spells (flags :: taken) storage := by
    by_cases valid : bitsOf flags ∈ validBits
    · rw [if_neg (by simpa using valid)]
      refine ((takes_walk Reader.takes_take).bind fun words => takes_paletteSize.bind fun size =>
        takes_readPalette.bind fun palette => takes_pure).congr fun taken storage => ?_
      constructor
      · rintro ⟨words, _, _, ⟨rfl, long⟩, ⟨size, _, _, isSize, ⟨_, _, palette,
          ⟨entries, rfl, spelled, rfl⟩, ⟨rfl, rfl⟩, rfl⟩, rfl⟩, rfl⟩
        exact ⟨rfl, size, entries, valid, long, isSize, spelled, by simp⟩
      · rintro ⟨rfl, size, entries, -, long, isSize, spelled, same⟩
        refine ⟨storage.words, _, _, ⟨rfl, long⟩, ⟨size, _, _, isSize, ⟨_, [], storage.palette,
          ⟨entries, rfl, spelled, rfl⟩, ⟨rfl, rfl⟩, rfl⟩, rfl⟩, ?_⟩
        simpa using same
    · rw [if_pos (by simpa using valid)]
      refine takes_throw.congr fun taken storage => ?_
      constructor
      · exact False.elim
      · rintro ⟨rfl, _, _, isValid, -⟩
        exact valid isValid
  refine ((takes_walk Reader.takes_byte).bind step).congr fun taken storage => ?_
  constructor
  · rintro ⟨_, back, flags, rfl, ⟨-, spelled⟩, rfl⟩
    exact spelled
  · intro spelled
    obtain ⟨size, entries, -, -, -, -, whole⟩ := id spelled
    rw [List.cons_append, List.cons_append] at whole
    exact ⟨[storage.flags], _, storage.flags, rfl, ⟨rfl, whole ▸ spelled⟩, whole⟩

end Storage

/-! ## Sections -/

/-- Whether a byte string is a section of a version that can be walked. -/
inductive Section.Spells : Bytes → Section → Prop
  | single {bytes : Bytes} {storage : Storage} (spelled : storage.Spells bytes) :
      Spells (1 :: bytes) ⟨1, none, [storage]⟩
  | counted {count : UInt8} {pieces : List Bytes} {storages : List Storage}
      (spelled : List.Forall₂ Storage.Spells pieces storages)
      (long : storages.length = count.toNat) :
      Spells (8 :: count :: pieces.flatten) ⟨8, none, storages⟩
  | placed {count height : UInt8} {pieces : List Bytes} {storages : List Storage}
      (spelled : List.Forall₂ Storage.Spells pieces storages)
      (long : storages.length = count.toNat) :
      Spells (9 :: count :: height :: pieces.flatten) ⟨9, some height, storages⟩

namespace Section

/-- So many storages are read where they stand in a row. -/
theorem takes_readStorages {count : Nat} {read : List Storage} :
    (readStorages count read).Takes (Reader.InRow Storage.Spells count read) := by
  induction count generalizing read with
  | zero => exact takes_pure.congr fun _ _ => Reader.inRow_zero_iff.symm
  | succ count ih =>
    exact (Storage.takes_read.bind fun _ => ih).congr fun _ _ => Reader.inRow_succ_iff.symm

/-- Behind the version of a section its storages are read. -/
theorem takes_readAfter {version : UInt8} : (readAfter version).Takes fun taken part =>
    part.version = version ∧ part.Spells (version :: taken) := by
  unfold readAfter
  by_cases one : version = 1
  · subst one
    rw [if_pos rfl]
    refine (takes_readStorages.bind fun _ => takes_pure).congr fun taken part => ?_
    constructor
    · rintro ⟨_, _, _, ⟨pieces, storages, spelled, long, rfl, rfl⟩, ⟨rfl, rfl⟩, rfl⟩
      obtain ⟨storage, rfl⟩ := List.length_eq_one_iff.mp long
      cases spelled with
      | cons first beyond =>
        cases beyond
        refine ⟨rfl, ?_⟩
        simpa using Spells.single first
    · rintro ⟨-, spelled⟩
      cases spelled with
      | single spelled =>
        exact ⟨_, [], _, ⟨[taken], _, .cons spelled .nil, rfl, rfl, rfl⟩, ⟨rfl, rfl⟩, by simp⟩
  rw [if_neg one]
  by_cases eight : version = 8
  · subst eight
    rw [if_pos rfl]
    refine ((takes_walk Reader.takes_byte).bind fun _ => takes_readStorages.bind fun _ =>
      takes_pure).congr fun taken part => ?_
    constructor
    · rintro ⟨_, _, count, rfl, ⟨_, _, _, ⟨pieces, storages, spelled, long, rfl, rfl⟩,
        ⟨rfl, rfl⟩, rfl⟩, rfl⟩
      refine ⟨rfl, ?_⟩
      simpa using Spells.counted spelled long
    · rintro ⟨-, spelled⟩
      cases spelled with
      | @counted count pieces storages spelled long =>
        exact ⟨[count], _, count, rfl, ⟨_, [], _, ⟨pieces, storages, spelled, long, rfl, rfl⟩,
          ⟨rfl, rfl⟩, rfl⟩, by simp⟩
  rw [if_neg eight]
  by_cases nine : version = 9
  · subst nine
    rw [if_pos rfl]
    refine ((takes_walk Reader.takes_byte).bind fun _ => (takes_walk Reader.takes_byte).bind
      fun _ => takes_readStorages.bind fun _ => takes_pure).congr fun taken part => ?_
    constructor
    · rintro ⟨_, _, count, rfl, ⟨_, _, height, rfl, ⟨_, _, _, ⟨pieces, storages, spelled, long,
        rfl, rfl⟩, ⟨rfl, rfl⟩, rfl⟩, rfl⟩, rfl⟩
      refine ⟨rfl, ?_⟩
      simpa using Spells.placed spelled long
    · rintro ⟨-, spelled⟩
      cases spelled with
      | @placed count height pieces storages spelled long =>
        exact ⟨[count], _, count, rfl, ⟨[height], _, height, rfl, ⟨_, [], _,
          ⟨pieces, storages, spelled, long, rfl, rfl⟩, ⟨rfl, rfl⟩, rfl⟩, rfl⟩, by simp⟩
  rw [if_neg nine]
  refine takes_throw.congr fun taken part => ?_
  constructor
  · exact False.elim
  · rintro ⟨-, spelled⟩
    cases spelled with
    | single => exact one rfl
    | counted => exact eight rfl
    | placed => exact nine rfl

/-- A section that can be walked begins with its version, which is none of the old ones. -/
theorem Spells.begins {bytes : Bytes} {part : Section} (spelled : part.Spells bytes) :
    ∃ rest, bytes = part.version :: rest ∧ isLegacy part.version = false := by
  cases spelled with
  | single => exact ⟨_, rfl, rfl⟩
  | counted => exact ⟨_, rfl, rfl⟩
  | placed => exact ⟨_, rfl, rfl⟩

end Section

/-! ## Columns -/

namespace Column

/-- Whether a walk of data over at most `count` sections finds a column in them. The walk ends
before a section of an old version, and what it does not reach is the tail. -/
inductive Walks : Nat → Bytes → Column → Prop
  | done (tail : Bytes) : Walks 0 tail ⟨[], tail⟩
  | legacy {count : Nat} {version : UInt8} (rest : Bytes)
      (old : Section.isLegacy version = true) :
      Walks (count + 1) (version :: rest) ⟨[], version :: rest⟩
  | further {count : Nat} {front rest : Bytes} {part : Section} {column : Column}
      (spelled : part.Spells front) (walks : Walks count rest column) :
      Walks (count + 1) (front ++ rest) ⟨part :: column.sections, column.tail⟩

/-- Data end before a section of an old version. -/
theorem readSections_of_legacy {count : Nat} {read : List Section} {version : UInt8} {rest : Bytes}
    (old : Section.isLegacy version = true) :
    readSections (count + 1) read (version :: rest) = .ok read.reverse (version :: rest) := by
  unfold readSections
  exact if_pos old

/-- A section of another version is read, and then the sections after it. -/
theorem readSections_of_recent {count : Nat} {read sections : List Section} {version : UInt8}
    {rest tail : Bytes} (recent : Section.isLegacy version = false) :
    readSections (count + 1) read (version :: rest) = .ok sections tail ↔
      ∃ part left, Section.readAfter version rest = .ok part left ∧
        readSections count (part :: read) left = .ok sections tail := by
  simp only [readSections, recent, Bool.false_eq_true, if_false]
  cases ran : Section.readAfter version rest with
  | error fault left => simp
  | ok part left =>
    constructor
    · exact fun same => ⟨part, left, rfl, same⟩
    · rintro ⟨_, _, ⟨⟩, same⟩
      exact same

/-- Sections are read exactly where a walk finds them, behind those read before. -/
theorem readSections_eq_ok_iff {count : Nat} {read sections : List Section} {input tail : Bytes} :
    readSections count read input = .ok sections tail ↔
      ∃ more, Walks count input ⟨more, tail⟩ ∧ sections = read.reverse ++ more := by
  induction count generalizing read input with
  | zero =>
    change EStateM.Result.ok read.reverse input = .ok sections tail ↔ _
    constructor
    · intro same
      cases same
      exact ⟨[], .done _, by simp⟩
    · rintro ⟨more, walks, rfl⟩
      cases walks
      simp
  | succ count ih =>
    cases input with
    | nil =>
      constructor
      · intro same
        cases same
      · rintro ⟨more, walks, -⟩
        generalize whole : ([] : Bytes) = data at walks
        cases walks with
        | legacy => cases whole
        | further spelled =>
          obtain ⟨_, rfl, -⟩ := spelled.begins
          cases whole
    | cons version rest =>
      by_cases old : Section.isLegacy version = true
      · rw [readSections_of_legacy old]
        constructor
        · intro same
          cases same
          exact ⟨[], .legacy rest old, by simp⟩
        · rintro ⟨more, walks, rfl⟩
          generalize whole : version :: rest = data at walks
          cases walks with
          | legacy => simp
          | further spelled =>
            obtain ⟨_, rfl, recent⟩ := spelled.begins
            rw [(List.cons.inj whole).1, recent] at old
            cases old
      · rw [Bool.not_eq_true] at old
        rw [readSections_of_recent old]
        constructor
        · rintro ⟨part, left, ran, same⟩
          obtain ⟨taken, ⟨-, spelled⟩, rfl⟩ := (Section.takes_readAfter _ _ _).mp ran
          obtain ⟨more, walks, rfl⟩ := ih.mp same
          exact ⟨part :: more, .further spelled walks, by simp⟩
        · rintro ⟨more, walks, rfl⟩
          generalize whole : version :: rest = data at walks
          cases walks with
          | legacy _ isOld =>
            rw [(List.cons.inj whole).1, isOld] at old
            cases old
          | @further _ front left part column spelled walks =>
            obtain ⟨taken, rfl, -⟩ := spelled.begins
            rw [List.cons_append] at whole
            obtain ⟨rfl, rfl⟩ := List.cons.inj whole
            refine ⟨part, left, ?_, ih.mpr ⟨column.sections, walks, by simp⟩⟩
            exact (Section.takes_readAfter _ _ _).mpr ⟨taken, ⟨rfl, spelled⟩, rfl⟩

/-- Data are taken apart exactly as they are walked. -/
theorem read_eq_ok_iff {count : Nat} {data : Bytes} {column : Column} :
    read count data = .ok column ↔ Walks count data column := by
  unfold read
  constructor
  · intro same
    cases ran : readSections count [] data with
    | error fault left => simp [ran] at same
    | ok sections tail =>
      simp only [ran] at same
      cases same
      obtain ⟨more, walks, rfl⟩ := readSections_eq_ok_iff.mp ran
      exact walks
  · intro walks
    have ran : readSections count [] data = .ok column.sections column.tail :=
      readSections_eq_ok_iff.mpr ⟨column.sections, walks, rfl⟩
    simp only [ran]

/-- A walk finds one column only. -/
theorem Walks.unique {count : Nat} {data : Bytes} {column other : Column}
    (walks : Walks count data column) (again : Walks count data other) : other = column := by
  rw [← read_eq_ok_iff] at walks again
  rw [walks] at again
  exact (Except.ok.inj again).symm

end Column

/-! ## Renumbered data -/

section Renumbering

variable (renumbering : Renumbering BlockId)

/-- The block numbers of a palette; tags name their blocks. -/
def StoragePalette.ids : StoragePalette → List Int32
  | .numbers ids => ids
  | .tags _ => []

/-- The block numbers in a column, in the order in which a walk meets them. -/
def Column.ids (column : Column) : List Int32 :=
  column.sections.flatMap fun part => part.storages.flatMap fun storage => storage.palette.ids

/-- A size is spelled as it is written. -/
theorem IsPaletteSize.written {bits size : Nat} {bytes : Bytes}
    (isSize : IsPaletteSize bits bytes size) :
    IsPaletteSize bits (if bits = 0 then [] else Varint.encodeSigned size) size := by
  unfold IsPaletteSize at isSize ⊢
  by_cases zero : bits = 0
  · rw [if_pos zero] at isSize
    simpa [zero] using isSize.2
  · rw [if_neg zero] at isSize
    obtain ⟨number, -, same⟩ := isSize
    simp only [zero, if_false, ← same]
    exact ⟨number, spellsNumber_encodeSigned number, rfl⟩

/-- A storage is spelled as it is written, and renumbering it takes only other numbers. -/
theorem Storage.Spells.renumber {bytes : Bytes} {storage : Storage}
    (spelled : storage.Spells bytes) :
    (storage.renumber renumbering).Spells (storage.renumber renumbering).encode := by
  obtain ⟨size, entries, valid, long, isSize, isEntries, -⟩ := spelled
  obtain ⟨flags, words, palette⟩ := storage
  have written := isSize.written
  cases palette with
  | numbers ids =>
    obtain ⟨runtime, spelled⟩ := isEntries
    let moved := ids.map (renumberId renumbering)
    have isEntries : List.Forall₂ SpellsNumber
        (moved.map fun id => Varint.encodeSigned id.toInt) moved := by
      rw [List.forall₂_map_left_iff, List.forall₂_same]
      exact fun id _ => spellsNumber_encodeSigned id
    rw [spelled.length_eq] at written
    refine ⟨if bitsOf flags = 0 then [] else Varint.encodeSigned ids.length,
      moved.map fun id => Varint.encodeSigned id.toInt, valid, long, ?_, ⟨runtime, isEntries⟩, ?_⟩
    · rw [List.length_map, List.length_map]
      exact written
    · unfold encode encodePalette
      dsimp only [Storage.renumber, StoragePalette.renumber]
      by_cases zero : bitsOf flags = 0
      · simp [zero, moved, List.flatMap_def]
      · simp [zero, moved, List.flatMap_def]
  | tags raw =>
    obtain ⟨persistent, rfl, all⟩ := isEntries
    refine ⟨if bitsOf flags = 0 then [] else Varint.encodeSigned entries.length, entries, valid,
      long, written, ⟨persistent, rfl, all⟩, ?_⟩
    unfold encode encodePalette
    dsimp only [Storage.renumber, StoragePalette.renumber]
    by_cases zero : bitsOf flags = 0
    · simp [zero]
    · simp [zero]

/-- Storages that are renumbered are spelled as they are written. -/
theorem spelled_renumbered {pieces : List Bytes} {storages : List Storage}
    (spelled : List.Forall₂ Storage.Spells pieces storages) :
    List.Forall₂ Storage.Spells
      ((storages.map (Storage.renumber renumbering)).map Storage.encode)
      (storages.map (Storage.renumber renumbering)) := by
  induction spelled with
  | nil => exact .nil
  | cons first _ ih => exact .cons (first.renumber renumbering) ih

/-- A section that is renumbered is spelled as it is written. -/
theorem Section.Spells.renumber {bytes : Bytes} {part : Section} (spelled : part.Spells bytes) :
    (part.renumber renumbering).Spells (part.renumber renumbering).encode := by
  cases spelled with
  | single spelled =>
    have written := Section.Spells.single (spelled.renumber renumbering)
    simpa [Section.renumber, Section.encode] using written
  | @counted count pieces storages spelled long =>
    have written := Section.Spells.counted
      (spelled_renumbered renumbering spelled) ((List.length_map _).trans long)
    simpa [Section.renumber, Section.encode, long, List.flatMap_def] using written
  | @placed count height pieces storages spelled long =>
    have written := @Section.Spells.placed _ height _ _
      (spelled_renumbered renumbering spelled) ((List.length_map _).trans long)
    simpa [Section.renumber, Section.encode, long, List.flatMap_def] using written

/-- In the data that are written of a renumbered column, this column is found. -/
theorem Column.Walks.renumber {count : Nat} {data : Bytes} {column : Column}
    (walks : Column.Walks count data column) :
    Column.Walks count (column.renumber renumbering).encode (column.renumber renumbering) := by
  induction walks with
  | done tail => exact .done tail
  | legacy rest old => exact .legacy rest old
  | further spelled _ ih =>
    have written := Column.Walks.further (spelled.renumber renumbering) ih
    simpa [Column.renumber, Column.encode] using written

/-- A change of every value changes nothing just if no value changes. -/
theorem map_eq_self_iff {α : Type} {change : α → α} {values : List α} :
    values.map change = values ↔ ∀ value ∈ values, change value = value := by
  conv_lhs => rw [← List.map_id values, List.map_map]
  exact List.map_inj_left

/-- A storage stays the same just if all numbers in its palette do. -/
theorem Storage.renumber_eq_self_iff {storage : Storage} :
    storage.renumber renumbering = storage ↔
      ∀ id ∈ storage.palette.ids, renumberId renumbering id = id := by
  obtain ⟨flags, words, palette⟩ := storage
  cases palette with
  | numbers ids =>
    simpa [Storage.renumber, StoragePalette.renumber, StoragePalette.ids] using map_eq_self_iff
  | tags raw => simp [Storage.renumber, StoragePalette.renumber, StoragePalette.ids]

/-- Sections stay the same just if all numbers in their palettes do. -/
theorem Column.renumber_eq_self_iff {column : Column} :
    column.renumber renumbering = column ↔
      ∀ id ∈ column.ids, renumberId renumbering id = id := by
  have parts (part : Section) : part.renumber renumbering = part ↔
      ∀ storage ∈ part.storages, ∀ id ∈ storage.palette.ids, renumberId renumbering id = id := by
    have storages : part.renumber renumbering = part ↔
        part.storages.map (Storage.renumber renumbering) = part.storages := by
      obtain ⟨version, height, storages⟩ := part
      simp [Section.renumber]
    simp only [storages, map_eq_self_iff, Storage.renumber_eq_self_iff]
  have whole : column.renumber renumbering = column ↔
      column.sections.map (Section.renumber renumbering) = column.sections := by
    obtain ⟨sections, tail⟩ := column
    simp [Column.renumber]
  rw [whole, map_eq_self_iff]
  simp only [parts, Column.ids, List.mem_flatMap]
  constructor
  · rintro all id ⟨part, among, storage, within, met⟩
    exact all part among storage within id met
  · intro all part among storage within id met
    exact all id ⟨part, among, storage, within, met⟩

/-- What renumbering leads to is decided by the column alone, also where no section is asked for. -/
theorem renumber_eq {client backend : SharedPalette BlockId} {count : Nat} {data : Bytes} :
    renumber (.between client backend) count data =
      match Column.read count data with
      | .error fault => .error fault
      | .ok column =>
        if column.renumber (.between client backend) = column then .ok none
        else .ok (some (column.renumber (.between client backend)).encode) := by
  by_cases zero : count = 0
  · subst zero
    have alone : Column.read 0 data = .ok ⟨[], data⟩ := Column.read_eq_ok_iff.mpr (.done data)
    rw [alone]
    simp [renumber, Column.renumber]
  · cases found : Column.read count data with
    | error fault => simp [renumber, Renumbering.isIdentity, zero, found, Bind.bind, Except.bind]
    | ok column => simp [renumber, Renumbering.isIdentity, zero, found, Bind.bind, Except.bind]

end Renumbering

/-- Renumbering the blocks of chunk data for the client fails exactly where a walk finds nothing.
Where it finds a column, the data are left alone exactly if no block number that is met changes;
otherwise a walk of the new data finds the same column, every block number in it replaced. -/
theorem renumber_finds (client backend : SharedPalette BlockId) (count : Nat) (data : Bytes) :
    ((∃ fault, renumber (.between client backend) count data = .error fault) ↔
      ¬∃ column, Column.Walks count data column) ∧
    ∀ column, Column.Walks count data column →
      (renumber (.between client backend) count data = .ok none ↔
        ∀ id ∈ column.ids, renumberId (.between client backend) id = id) ∧
      ∀ output, renumber (.between client backend) count data = .ok (some output) →
        ∀ found, Column.Walks count output found ↔
          found = column.renumber (.between client backend) := by
  have walked (column : Column) : Column.Walks count data column ↔
      Column.read count data = .ok column := Column.read_eq_ok_iff.symm
  rw [renumber_eq]
  constructor
  · simp only [walked]
    cases found : Column.read count data with
    | error fault => simp
    | ok column =>
      dsimp only
      by_cases same : column.renumber (.between client backend) = column
      · simp [same]
      · simp [same]
  · intro column walks
    rw [(walked column).mp walks]
    dsimp only
    rw [← Column.renumber_eq_self_iff]
    by_cases same : column.renumber (.between client backend) = column
    · simp [same]
    · simp only [same, if_false]
      constructor
      · simp
      · intro output written found
        cases written
        have again := walks.renumber (.between client backend)
        constructor
        · exact fun walksAgain => again.unique walksAgain
        · rintro rfl
          exact again

/-- A section of two layers, of one block each, the first number spelled in more bytes than it
takes, and a tail. The client has the two blocks the other way round. -/
theorem renumber_finds_layers :
    let client : SharedPalette BlockId := ⟨0, ⟨[⟨"minecraft:stone", 0⟩, ⟨"minecraft:air", 1⟩]⟩⟩
    let backend : SharedPalette BlockId := ⟨1, ⟨[⟨"minecraft:air", 0⟩, ⟨"minecraft:stone", 1⟩]⟩⟩
    let layers (below above : Int32) : Column :=
      ⟨[⟨9, some 4, [⟨1, [], .numbers [below]⟩, ⟨1, [], .numbers [above]⟩]⟩], [6, 6]⟩
    let data : Bytes := [9, 2, 4, 1, 0x82, 0x00, 1, 0, 6, 6]
    let output : Bytes := [9, 2, 4, 1, 0, 1, 2, 6, 6]
    Column.Walks 1 data (layers 1 0) ∧
      renumber (.between client backend) 1 data = .ok (some output) ∧
      ∀ found, Column.Walks 1 output found ↔ found = layers 0 1 := by
  intro client backend layers data output
  have walks : Column.Walks 1 data (layers 1 0) := Column.read_eq_ok_iff.mp rfl
  have renumbered : renumber (.between client backend) 1 data = .ok (some output) := by
    decide +kernel
  have finds := ((renumber_finds client backend 1 data).2 (layers 1 0) walks).2 output renumbered
  have moved : (layers 1 0).renumber (.between client backend) = layers 0 1 := by decide +kernel
  rw [moved] at finds
  exact ⟨walks, renumbered, finds⟩

end Terrain

end Ferry
