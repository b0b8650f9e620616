import Ferry.Proofs.Wire.Reader

/-!
# Layouts that give back what they have written

A layout *recovers* the values that fit it: what it writes of one is read back as that value,
and nothing but fitting values is read. It is *exact* if, besides, it finds the end of a value by
itself, whatever follows. All fields of a record but the last must be exact. There is one rule for
each way to put layouts together, and one statement for each layout of a single field, so that the
fitting values of a record are found along the text of its layout.
-/

namespace Ferry

namespace Bytes

/-- The two orders of digits spell the same numbers, read from opposite ends. -/
theorem ofBigEndian_eq (digits : Bytes) : ofBigEndian digits = ofLittleEndian digits.reverse := by
  rw [ofBigEndian, ofLittleEndian, List.foldr_reverse]
  congr 1
  funext higher digit
  exact Nat.add_comm _ _

/-- Big-endian digits of a width stand for the number, up to what the width cannot hold. -/
theorem ofBigEndian_bigEndian (width value : Nat) :
    ofBigEndian (bigEndian width value) = value % Nat.pow 256 width := by
  rw [ofBigEndian_eq, bigEndian, List.reverse_reverse, ofLittleEndian_littleEndian]

end Bytes

namespace Layout

variable {α β : Type} {layout : Layout α} {fits : α → Prop}

/-- A layout reads back what it writes of fitting values, and reads no others. -/
structure Recovers (layout : Layout α) (fits : α → Prop) : Prop where
  reads : ∀ value, fits value → layout.read (layout.write value) = .ok value []
  fits : layout.read.Yields fits

/-- A layout that recovers the values that fit it, and finds their end by itself. -/
structure Exact (layout : Layout α) (fits : α → Prop) : Prop extends
    layout.Recovers fits where
  delimits : layout.read.Delimits

/-- A layout that every value fits. -/
abbrev Total (layout : Layout α) : Prop := layout.Exact fun _ => True

/-- A layout is exact if what is written of fitting values are the forms that are read. -/
theorem Exact.ofTakes {form : Bytes → α → Prop} (takes : layout.read.Takes form)
    (written : ∀ value, fits value → form (layout.write value) value)
    (fit : ∀ taken value, form taken value → fits value) : layout.Exact fits where
  reads value fitting := by simpa using takes.reads (written value fitting) []
  fits input value rest read := by
    obtain ⟨taken, form, -⟩ := (takes input value rest).mp read
    exact fit taken value form
  delimits := takes.delimits

/-- What is written of a fitting value is read back whatever follows. -/
theorem Exact.readsBefore (exact : layout.Exact fits) {value : α} (fitting : fits value)
    (more : Bytes) : layout.read (layout.write value ++ more) = .ok value more :=
  exact.delimits.takes.reads (exact.reads value fitting) more

/-- What fits may be said in other words. -/
theorem Recovers.congr {other : α → Prop} (recovers : layout.Recovers fits)
    (same : ∀ value, fits value ↔ other value) : layout.Recovers other where
  reads value fitting := recovers.reads value ((same value).mpr fitting)
  fits input value rest read := (same value).mp (recovers.fits input value rest read)

/-- What fits exactly may be said in other words. -/
theorem Exact.congr {other : α → Prop} (exact : layout.Exact fits)
    (same : ∀ value, fits value ↔ other value) : layout.Exact other :=
  ⟨exact.toRecovers.congr same, exact.delimits⟩

/-! ## Layouts of several fields -/

/-- A constant takes no bytes, and nothing else fits. -/
theorem constant_exact (value : α) : (constant value).Exact fun other => other = value :=
  .ofTakes Reader.takes_pure (fun _ same => ⟨rfl, same⟩) fun _ _ form => form.2

section Chain

variable {first : Layout α} {second : α → Layout β} {others : α → β → Prop}

/-- A chain ends by itself if each of its two parts does. -/
theorem Exact.chain_delimits (exact : first.Exact fits)
    (rest : ∀ left, (second left).read.Delimits) : (first.chain second).read.Delimits :=
  exact.delimits.bind fun left => (rest left).bind fun _ => Reader.takes_pure.delimits

/-- A field behind an exact one. -/
theorem Exact.chainLast (exact : first.Exact fits)
    (rest : ∀ left, (second left).Recovers (others left)) :
    (first.chain second).Recovers fun value => fits value.1 ∧ others value.1 value.2 where
  reads value fitting := by
    have ahead := exact.readsBefore fitting.1 ((second value.1).write value.2)
    have behind := (rest value.1).reads value.2 fitting.2
    simp only [chain, bind, EStateM.bind, ahead, behind]
    rfl
  fits input value left read := by
    simp only [chain, bind, EStateM.bind] at read
    cases ahead : first.read input with
    | error fault unread => simp [ahead] at read
    | ok one unread =>
      simp only [ahead] at read
      cases behind : (second one).read unread with
      | error fault unread => simp [behind] at read
      | ok two unread =>
        simp only [behind] at read
        cases read
        exact ⟨exact.fits _ _ _ ahead, (rest one).fits _ _ _ behind⟩

/-- A chain of two exact layouts is exact. -/
theorem Exact.chain (exact : first.Exact fits)
    (rest : ∀ left, (second left).Exact (others left)) :
    (first.chain second).Exact fun value => fits value.1 ∧ others value.1 value.2 :=
  ⟨exact.chainLast fun left => (rest left).toRecovers,
    exact.chain_delimits fun left => (rest left).delimits⟩

end Chain

section Pair

variable {first : Layout α} {second : Layout β} {others : β → Prop}

/-- Behind an exact layout comes one that reads up to the end. -/
theorem Exact.pairLast (exact : first.Exact fits) (rest : second.Recovers others) :
    (first.pair second).Recovers fun value => fits value.1 ∧ others value.2 :=
  exact.chainLast fun _ => rest

/-- Two exact layouts behind one another are exact. -/
theorem Exact.pair (exact : first.Exact fits) (rest : second.Exact others) :
    (first.pair second).Exact fun value => fits value.1 ∧ others value.2 :=
  exact.chain fun _ => rest

/-- Behind a total layout comes one that reads up to the end. -/
theorem Total.pairLast (total : first.Total) (rest : second.Recovers others) :
    (first.pair second).Recovers fun value => others value.2 :=
  (Exact.pairLast total rest).congr fun _ => by simp

/-- Behind a total layout comes an exact one, which alone decides what fits. -/
theorem Total.pairExact (total : first.Total) (rest : second.Exact others) :
    (first.pair second).Exact fun value => others value.2 :=
  (Exact.pair total rest).congr fun _ => by simp

/-- Behind an exact layout, which alone decides what fits, comes a total one. -/
theorem Exact.pairTotal (exact : first.Exact fits) (rest : second.Total) :
    (first.pair second).Exact fun value => fits value.1 :=
  (exact.pair rest).congr fun _ => by simp

/-- Two total layouts behind one another are total. -/
theorem Total.pair (total : first.Total) (rest : second.Total) : (first.pair second).Total :=
  total.pairExact rest

end Pair

section Convert

variable {pack : α → β} {unpack : β → α} {others : β → Prop}

/-- A fitting value is read back through a function as well. -/
theorem Recovers.readsMap (recovers : layout.Recovers fits) (make : α → β) {value : α}
    (fitting : fits value) : (make <$> layout.read) (layout.write value) = .ok (make value) [] :=
  Reader.map_eq_ok_iff.mpr ⟨value, recovers.reads value fitting, rfl⟩

/-- The values of another type that fit are those whose form fits and gives them back. -/
theorem Recovers.convert (recovers : layout.Recovers fits)
    (back : ∀ value, others value → fits (unpack value) ∧ pack (unpack value) = value)
    (forth : ∀ value, fits value → others (pack value)) :
    (layout.convert pack unpack).Recovers others where
  reads value fitting := by
    obtain ⟨inner, same⟩ := back value fitting
    exact (recovers.readsMap pack inner).trans (by rw [same])
  fits := recovers.fits.map forth

/-- An exact layout stays exact through functions that undo each other on what fits. -/
theorem Exact.convert (exact : layout.Exact fits)
    (back : ∀ value, others value → fits (unpack value) ∧ pack (unpack value) = value)
    (forth : ∀ value, fits value → others (pack value)) :
    (layout.convert pack unpack).Exact others :=
  ⟨exact.toRecovers.convert back forth, exact.delimits.map⟩

/-- A total layout stays total through a function that is undone. -/
theorem Total.convert (total : layout.Total) (inverse : ∀ value, pack (unpack value) = value) :
    (layout.convert pack unpack).Total :=
  Exact.convert total (fun value _ => ⟨trivial, inverse value⟩) fun _ _ => trivial

/-- A field that is there for good, in a place where a value may be missing. -/
theorem Total.present (total : layout.Total) (absent : α) :
    (layout.convert some fun value => value.getD absent).Exact fun value =>
      value.isSome = true := by
  refine Exact.convert total (fun value here => ⟨trivial, ?_⟩) fun _ _ => rfl
  obtain ⟨inner, rfl⟩ := Option.isSome_iff_exists.mp here
  rfl

end Convert

/-- A field that is there only under a condition. -/
theorem Exact.onlyIf {present : Bool} {absent : α} (exact : layout.Exact fits) :
    (onlyIf present layout absent).Exact fun value =>
      if present then fits value else value = absent := by
  cases present with
  | false => exact constant_exact absent
  | true => exact exact

/-! ## Layouts of single fields -/

/-- Every byte is read back. -/
theorem byte_total : byte.Total :=
  .ofTakes Reader.takes_byte (fun _ _ => rfl) fun _ _ _ => trivial

/-- Every value that is a number below the bound of its width is read back. -/
theorem word_total {width : Nat} {ofNat : Nat → α} {toNat : α → Nat}
    (inverse : ∀ value, ofNat (toNat value) = value)
    (small : ∀ value, toNat value < Nat.pow 256 width) : (word width ofNat toNat).Total :=
  .ofTakes (Reader.takes_take.bind fun _ => Reader.takes_pure)
    (fun value _ => ⟨_, [], Bytes.littleEndian width (toNat value),
      ⟨rfl, Bytes.length_littleEndian width (toNat value)⟩, ⟨rfl, by
        rw [Bytes.ofLittleEndian_littleEndian, Nat.mod_eq_of_lt (small value), inverse]⟩,
      (List.append_nil _).symm⟩)
    fun _ _ _ => trivial

/-- Every signed byte is read back. -/
theorem int8_total : int8.Total := Total.convert byte_total fun _ => rfl

/-- Every number of 16 bits is read back. -/
theorem uint16_total : uint16.Total := word_total (fun _ => UInt16.ofNat_toNat) UInt16.toNat_lt

/-- Every signed number of 16 bits is read back. -/
theorem int16_total : int16.Total := Total.convert uint16_total fun _ => rfl

/-- Every number of 32 bits is read back. -/
theorem uint32_total : uint32.Total := word_total (fun _ => UInt32.ofNat_toNat) UInt32.toNat_lt

/-- Every number of 64 bits is read back. -/
theorem uint64_total : uint64.Total := word_total (fun _ => UInt64.ofNat_toNat) UInt64.toNat_lt

/-- Every signed number of 64 bits is read back. -/
theorem int64_total : int64.Total := Total.convert uint64_total fun _ => rfl

/-- Every signed number of 32 bits is read back in the other order of bytes as well. -/
theorem int32BigEndian_total : int32BigEndian.Total :=
  .ofTakes (Reader.takes_take.bind fun _ => Reader.takes_pure)
    (fun value _ => ⟨_, [], Bytes.bigEndian 4 value.toUInt32.toNat,
      ⟨rfl, Bytes.length_bigEndian 4 _⟩, ⟨rfl, by
        rw [Bytes.ofBigEndian_bigEndian, Nat.mod_eq_of_lt value.toUInt32.toNat_lt,
          UInt32.ofNat_toNat]
        rfl⟩,
      (List.append_nil _).symm⟩)
    fun _ _ _ => trivial

/-- Every number of single precision is read back, by its bits. -/
theorem single_total : single.Total := Total.convert uint32_total fun _ => rfl

/-- A truth value is one of two bytes. -/
theorem takes_bool : bool.read.Takes fun taken value => taken = [if value then 1 else 0] := by
  have step (pattern : UInt8) :
      (if pattern = 0 then pure false else if pattern = 1 then pure true
        else throw (.invalidBool pattern) : Reader Bool).Takes fun taken value =>
        taken = [] ∧ pattern = if value then 1 else 0 := by
    split
    next zero =>
      refine Reader.takes_pure.congr fun taken value => and_congr_right fun _ => ?_
      cases value <;> simp [zero]
    next other =>
      split
      next one =>
        refine Reader.takes_pure.congr fun taken value => and_congr_right fun _ => ?_
        cases value <;> simp [one]
      next neither =>
        refine Reader.takes_throw.congr fun taken value => ?_
        cases value <;> simp [other, neither]
  refine (Reader.takes_byte.bind step).congr fun taken value => ?_
  constructor
  · rintro ⟨_, _, pattern, rfl, ⟨rfl, rfl⟩, rfl⟩
    rfl
  · rintro rfl
    exact ⟨_, [], _, rfl, ⟨rfl, rfl⟩, rfl⟩

/-- Both truth values are read back. -/
theorem bool_total : bool.Total := .ofTakes takes_bool (fun _ _ => rfl) fun _ _ _ => trivial

/-- Every number of 32 bits is read back from its groups of seven bits. -/
theorem varUInt32_total : varUInt32.Total :=
  .ofTakes Varint.takes_read32
    (fun value _ => Varint.encode_form 4 (Nat.lt_trans value.toNat_lt (by decide))
      UInt32.ofNat_toNat)
    fun _ _ _ => trivial

/-- Every number of 64 bits is read back from its groups of seven bits. -/
theorem varUInt64_total : varUInt64.Total :=
  .ofTakes Varint.takes_read64
    (fun value _ => Varint.encode_form 9 (Nat.lt_trans value.toNat_lt (by decide))
      UInt64.ofNat_toNat)
    fun _ _ _ => trivial

/-- Every signed number of 32 bits is read back from its groups of seven bits. -/
theorem varInt32_total : varInt32.Total :=
  .ofTakes Varint.takes_readSigned32
    (fun value _ => by
      have place : Varint.zigzag value.toInt < UInt32.size :=
        Varint.zigzag_lt value.le_toInt value.toInt_lt
      let make (number : Nat) : Int32 := Int32.ofInt (Varint.ofZigzag (number % UInt32.size))
      have same : make (Varint.zigzag value.toInt) = value := by
        simp only [make, Nat.mod_eq_of_lt place, Varint.ofZigzag_zigzag, Int32.ofInt_toInt]
      exact Varint.encode_form 4 (Nat.lt_trans place (by decide)) same)
    fun _ _ _ => trivial

/-- Every signed number of 64 bits is read back from its groups of seven bits. -/
theorem varInt64_total : varInt64.Total :=
  .ofTakes Varint.takes_readSigned64
    (fun value _ => by
      have place : Varint.zigzag value.toInt < UInt64.size :=
        Varint.zigzag_lt value.le_toInt value.toInt_lt
      let make (number : Nat) : Int64 := Int64.ofInt (Varint.ofZigzag (number % UInt64.size))
      have same : make (Varint.zigzag value.toInt) = value := by
        simp only [make, Nat.mod_eq_of_lt place, Varint.ofZigzag_zigzag, Int64.ofInt_toInt]
      exact Varint.encode_form 9 (Nat.lt_trans place (by decide)) same)
    fun _ _ _ => trivial

/-! ## Counts, byte strings and texts -/

/-- The counts that are read back from 16 bits are those that fit into them. -/
theorem count16_exact : count16.Exact fun count => count < UInt16.size :=
  Exact.convert uint16_total
    (fun count small => ⟨trivial, by
      rw [Nat.min_eq_left (Nat.le_sub_one_of_lt small), UInt16.toNat_ofNat_of_lt' small]⟩)
    fun count _ => count.toNat_lt

/-- The counts that are read back from 32 bits are those that fit into them. -/
theorem count32_exact : count32.Exact fun count => count < UInt32.size :=
  Exact.convert uint32_total
    (fun count small => ⟨trivial, by
      rw [Nat.min_eq_left (Nat.le_sub_one_of_lt small), UInt32.toNat_ofNat_of_lt' small]⟩)
    fun count _ => count.toNat_lt

/-- The counts that are read back from groups of seven bits are those that fit into 32 bits. -/
theorem varCount_exact : varCount.Exact fun count => count < UInt32.size :=
  Exact.convert varUInt32_total
    (fun count small => ⟨trivial, by
      rw [Nat.min_eq_left (Nat.le_sub_one_of_lt small), UInt32.toNat_ofNat_of_lt' small]⟩)
    fun count _ => count.toNat_lt

/-- A count in groups of seven bits is any spelling of it that is not too long. -/
theorem takes_varCount : varCount.read.Takes fun taken count =>
    Varint.IsSpelled taken ∧ taken.length ≤ Varint.maxBytes32 ∧
      Varint.number taken % UInt32.size = count := by
  refine Varint.takes_read32.map.congr fun taken count => ?_
  constructor
  · rintro ⟨_, ⟨spelled, short, rfl⟩, rfl⟩
    exact ⟨spelled, short, by simp⟩
  · rintro ⟨spelled, short, rfl⟩
    exact ⟨_, ⟨spelled, short, rfl⟩, by simp⟩

/-- The bytes that are read back in a given number are those of that length. -/
theorem bytesOf_exact (count : Nat) : (bytesOf count).Exact fun value => value.length = count :=
  .ofTakes Reader.takes_take (fun _ long => ⟨rfl, long⟩) fun _ _ form => form.2

/-- What is left of a body is its last field. -/
theorem rest_recovers : rest.Recovers fun _ => True :=
  ⟨fun _ _ => rfl, fun _ _ _ _ => trivial⟩

/-- A byte string stands behind its length, which is bounded. -/
theorem takes_byteArray : byteArray.read.Takes fun taken value =>
    ∃ spelled, Varint.IsSpelled spelled ∧ spelled.length ≤ Varint.maxBytes32 ∧
      Varint.number spelled % UInt32.size = value.length ∧ value.length ≤ bufferLimit ∧
      taken = spelled ++ value := by
  have step (length : Nat) : (if length > bufferLimit then throw (.arrayTooLong length)
      else Reader.take length : Reader Bytes).Takes fun taken value =>
        length ≤ bufferLimit ∧ taken = value ∧ value.length = length := by
    split
    next long => exact Reader.takes_throw.congr fun _ _ => by simp [Nat.not_le.mpr long]
    next short => exact Reader.takes_take.congr fun _ _ => by simp [Nat.not_lt.mp short]
  refine (takes_varCount.bind step).congr fun taken value => ?_
  constructor
  · rintro ⟨spelled, _, _, ⟨isSpelled, few, counted⟩, ⟨short, rfl, rfl⟩, rfl⟩
    exact ⟨spelled, isSpelled, few, counted, short, rfl⟩
  · rintro ⟨spelled, isSpelled, few, counted, short, rfl⟩
    exact ⟨spelled, value, _, ⟨isSpelled, few, counted⟩, ⟨short, rfl, rfl⟩, rfl⟩

/-- The bytes that are read back behind their length are those within the buffer limit. -/
theorem byteArray_exact : byteArray.Exact fun value => value.length ≤ bufferLimit :=
  .ofTakes takes_byteArray
    (fun value short => by
      have small : value.length < UInt32.size := Nat.lt_of_le_of_lt short (by decide)
      obtain ⟨isSpelled, few, counted⟩ :=
        takes_varCount.whole_iff.mp (varCount_exact.reads value.length small)
      exact ⟨_, isSpelled, few, counted, short, rfl⟩)
    fun _ _ ⟨_, _, _, _, short, _⟩ => short

/-- Whether a text is short enough to be read. -/
def IsShort (text : String) : Prop := (Bytes.ofString text).length ≤ bufferLimit

/-- A text is its UTF-8 bytes, as a byte string. -/
theorem takes_text : text.read.Takes fun taken value =>
    ∃ spelled, Varint.IsSpelled spelled ∧ spelled.length ≤ Varint.maxBytes32 ∧
      Varint.number spelled % UInt32.size = (Bytes.ofString value).length ∧ IsShort value ∧
      taken = spelled ++ Bytes.ofString value := by
  let forms (bytes taken : Bytes) (value : String) : Prop :=
    taken = [] ∧ bytes = Bytes.ofString value
  have packed (bytes : Bytes) (value : String) :
      bytes = Bytes.ofString value ↔ Bytes.pack bytes = value.toByteArray := by
    constructor
    · rintro rfl
      exact Bytes.pack_ofByteArray value.toByteArray
    · intro same
      rw [Bytes.ofString, ← same]
      rfl
  unfold text
  refine Reader.Takes.congr (@Reader.Takes.bind _ _ _ _ _ forms takes_byteArray fun bytes => ?_)
    fun taken value => ?_
  · split
    next value valid =>
      refine Reader.takes_pure.congr fun taken other => and_congr_right fun _ => ?_
      rw [packed]
      unfold String.fromUTF8? at valid
      split at valid
      next =>
        cases valid
        constructor
        · rintro rfl
          rfl
        · exact fun same => String.toByteArray_inj.mp same.symm
      next => cases valid
    next invalid =>
      refine Reader.takes_throw.congr fun taken other => ?_
      simp only [forms, packed, false_iff]
      rintro ⟨-, same⟩
      unfold String.fromUTF8? at invalid
      split at invalid
      next => cases invalid
      next wrong => exact wrong (same ▸ other.isValidUTF8)
  · constructor
    · rintro ⟨_, _, _, ⟨spelled, isSpelled, few, counted, short, rfl⟩, ⟨rfl, rfl⟩, rfl⟩
      rw [List.append_nil]
      exact ⟨spelled, isSpelled, few, counted, short, rfl⟩
    · rintro ⟨spelled, isSpelled, few, counted, short, rfl⟩
      exact ⟨_, [], _, ⟨spelled, isSpelled, few, counted, short, rfl⟩, ⟨rfl, rfl⟩,
        (List.append_nil _).symm⟩

/-- The texts that are read back are those whose bytes are within the buffer limit. -/
theorem text_exact : text.Exact IsShort :=
  .ofTakes takes_text
    (fun value short => by
      obtain ⟨spelled, isSpelled, few, counted, -, whole⟩ :=
        takes_byteArray.whole_iff.mp (byteArray_exact.reads (Bytes.ofString value) short)
      exact ⟨spelled, isSpelled, few, counted, short, whole⟩)
    fun _ _ ⟨_, _, _, _, short, _⟩ => short

/-! ## Lists and options -/

/-- Elements in a row are read back in their order. -/
theorem Exact.manyOnto (exact : layout.Exact fits) {values : List α}
    (fitting : ∀ value ∈ values, fits value) (read : List α) (more : Bytes) :
    Reader.manyOnto layout.read values.length read (values.flatMap layout.write ++ more) =
      .ok (read.reverse ++ values) more := by
  induction values generalizing read with
  | nil => simp [Reader.manyOnto, pure, EStateM.pure]
  | cons value values ih =>
    obtain ⟨first, others⟩ := List.forall_mem_cons.mp fitting
    have ahead := exact.readsBefore first (values.flatMap layout.write ++ more)
    simp only [List.length_cons, List.flatMap_cons, List.append_assoc, Reader.manyOnto, bind,
      EStateM.bind, ahead, ih others (value :: read)]
    simp

/-- What is read a number of times is that many values, and all of them fit. -/
theorem Exact.of_manyOnto (exact : layout.Exact fits) {count : Nat} {input rest : Bytes}
    {before values : List α} (fitting : ∀ value ∈ before, fits value)
    (read : Reader.manyOnto layout.read count before input = .ok values rest) :
    values.length = before.length + count ∧ ∀ value ∈ values, fits value := by
  induction count generalizing before input with
  | zero =>
    simp only [Reader.manyOnto, pure, EStateM.pure] at read
    cases read
    exact ⟨List.length_reverse, by simpa using fitting⟩
  | succ count ih =>
    simp only [Reader.manyOnto, bind, EStateM.bind] at read
    cases ahead : layout.read input with
    | error fault left => simp [ahead] at read
    | ok value left =>
      simp only [ahead] at read
      obtain ⟨long, all⟩ := ih (List.forall_mem_cons.mpr
        ⟨exact.fits _ _ _ ahead, fitting⟩) read
      rw [List.length_cons] at long
      exact ⟨by omega, all⟩

/-- A list is read back behind its count if the count and all its values fit. -/
theorem Exact.counted {count : Layout Nat} {bound : Nat} (exact : layout.Exact fits)
    (counts : count.Exact (· < bound)) : (counted count layout).Exact fun values =>
      values.length < bound ∧ ∀ value ∈ values, fits value where
  reads values fitting := by
    have ahead := counts.readsBefore fitting.1 (values.flatMap layout.write)
    have behind := exact.manyOnto fitting.2 [] []
    rw [List.append_nil] at behind
    simp only [Layout.counted, bind, EStateM.bind, ahead, Reader.many, behind]
    rfl
  fits input values rest read := by
    simp only [Layout.counted, bind, EStateM.bind] at read
    cases ahead : count.read input with
    | error fault left => simp [ahead] at read
    | ok number left =>
      simp only [ahead] at read
      obtain ⟨long, all⟩ := exact.of_manyOnto (by simp) read
      rw [long, List.length_nil, Nat.zero_add]
      exact ⟨counts.fits _ _ _ ahead, all⟩
  delimits := counts.delimits.bind fun _ => exact.delimits.manyOnto

/-- A list is read back if it is not too long and all its values fit. -/
theorem Exact.list (exact : layout.Exact fits) : (list layout).Exact fun values =>
    values.length < UInt32.size ∧ ∀ value ∈ values, fits value :=
  exact.counted varCount_exact

/-- A list of values that all fit is read back if it is not too long. -/
theorem Total.list (total : layout.Total) :
    (list layout).Exact fun values => values.length < UInt32.size :=
  (Exact.list total).congr fun _ => by simp

/-- A value that may be missing is read back if it fits where it is there. -/
theorem Exact.optional (exact : layout.Exact fits) :
    (optional layout).Exact fun value => ∀ inner ∈ value, fits inner where
  reads value fitting := by
    cases value with
    | none => rfl
    | some inner =>
      have ahead : bool.read (bool.write true ++ layout.write inner) =
          .ok true (layout.write inner) := bool_total.readsBefore trivial _
      have behind := exact.reads inner (fitting inner rfl)
      simp only [Layout.optional, bind, EStateM.bind, ahead, if_true, Functor.map, EStateM.map,
        behind]
  fits input value rest read := by
    obtain ⟨present, left, -, read⟩ := Reader.bind_eq_ok_iff.mp read
    cases present with
    | false =>
      cases read
      simp
    | true =>
      obtain ⟨inner, behind, rfl⟩ := Reader.map_eq_ok_iff.mp read
      rintro _ ⟨⟩
      exact exact.fits _ _ _ behind
  delimits := bool_total.delimits.bind fun present => by
    cases present with
    | false => exact Reader.takes_pure.delimits
    | true => exact exact.delimits.map

/-- A value that may be missing is read back if every value is. -/
theorem Total.optional (total : layout.Total) : (optional layout).Total :=
  (Exact.optional total).congr fun _ => by simp

end Layout

end Ferry
