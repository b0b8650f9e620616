import Ferry.Bytes
import Mathlib.Data.List.Basic

/-!
# The bytes of a text and of a number

A text is spelled in bytes, one character after the other. The bytes tell two texts apart, they
stand in the order in which the texts stand, and where a text begins with the bytes of another,
it begins with its characters. The digits of a number tell two numbers apart that fit.
-/

namespace Ferry.Bytes

/-- Numbers within a width have the same digits exactly if they are the same. -/
theorem littleEndian_inj {width left right : Nat} (small : left < Nat.pow 256 width)
    (little : right < Nat.pow 256 width) :
    littleEndian width left = littleEndian width right ↔ left = right := by
  constructor
  · intro same
    have values := congrArg ofLittleEndian same
    rwa [ofLittleEndian_littleEndian, ofLittleEndian_littleEndian, Nat.mod_eq_of_lt small,
      Nat.mod_eq_of_lt little] at values
  · rintro rfl
    rfl

/-- Two rows of bytes are compared by their first bytes. -/
theorem ofNat_cons_lt_iff {left right : Nat} (small : left < 256) (little : right < 256)
    {first second : Bytes} : UInt8.ofNat left :: first < UInt8.ofNat right :: second ↔
      left < right ∨ left = right ∧ first < second := by
  rw [List.cons_lt_cons_iff, UInt8.lt_iff_toNat_lt, ← UInt8.toNat_inj, UInt8.toNat_ofNat',
    UInt8.toNat_ofNat', Nat.mod_eq_of_lt small, Nat.mod_eq_of_lt little]

/-- The bytes of two characters tell which is the less, whatever follows. -/
theorem encodeChar_append_lt {left right : Char} (less : left < right) (first second : Bytes) :
    String.utf8EncodeChar left ++ first < String.utf8EncodeChar right ++ second := by
  have order : left.val.toNat < right.val.toNat := less
  have bound : right.val.toNat < 0x110000 := by
    rcases right.valid with low | ⟨-, high⟩
    · exact Nat.lt_trans low (by decide)
    · exact high
  unfold String.utf8EncodeChar
  generalize left.val.toNat = lower at *
  generalize right.val.toNat = upper at *
  -- the bytes are the digits of base 64, the first of them marked by how many there are
  have digits (number : Nat) : number / 4096 = number / 64 / 64 ∧
      number / 262144 = number / 64 / 64 / 64 := by omega
  simp only [digits]
  split_ifs <;> first
    | omega
    | simp (disch := omega) only [List.cons_append, List.nil_append, ofNat_cons_lt_iff]; omega

/-- The bytes of a text are those of its characters, one behind the other. -/
theorem ofString_eq_flatMap (text : String) :
    ofString text = text.toList.flatMap String.utf8EncodeChar := by
  rw [ofString, ofByteArray, ← String.utf8Encode_toList, List.utf8Encode,
    List.toList_data_toByteArray]

/-- The bytes of two texts in a row are those of each in a row. -/
@[simp] theorem ofString_append (first second : String) :
    ofString (first ++ second) = ofString first ++ ofString second := by
  simp [ofString_eq_flatMap]

/-- Texts have the same bytes exactly if they are the same. -/
theorem ofString_inj {left right : String} : ofString left = ofString right ↔ left = right := by
  constructor
  · intro same
    refine String.toByteArray_inj.mp ?_
    rw [← pack_ofByteArray left.toByteArray, ← pack_ofByteArray right.toByteArray]
    exact congrArg pack same
  · rintro rfl
    rfl

/-- Packing keeps bytes in a row. -/
theorem pack_append (first second : Bytes) :
    pack (first ++ second) = pack first ++ pack second := by
  apply ByteArray.ext
  simp [pack]

/-- A text that begins with the bytes of another begins with that text. -/
theorem ofString_eq_append_iff {whole head : String} {rest : Bytes} :
    ofString whole = ofString head ++ rest ↔
      ∃ tail, whole = head ++ tail ∧ ofString tail = rest := by
  constructor
  · intro same
    have starts : head.toList <+: whole.toList := by
      refine List.isPrefix_of_utf8Encode_append_eq_utf8Encode (pack rest) ?_
      have joined := congrArg pack same
      rw [ofString, ofString, pack_ofByteArray, pack_append, pack_ofByteArray] at joined
      rw [String.utf8Encode_toList, String.utf8Encode_toList, joined]
    obtain ⟨tail, joined⟩ := starts
    have parts : whole = head ++ String.ofList tail := by
      rw [← String.toList_inj, String.toList_append, String.toList_ofList, joined]
    refine ⟨String.ofList tail, parts, ?_⟩
    rw [parts, ofString_append] at same
    exact List.append_cancel_left same
  · rintro ⟨tail, rfl, rfl⟩
    exact ofString_append head tail

/-- The bytes of a row of characters tell which row is the less. -/
theorem encode_lt {left right : List Char} (less : left < right) :
    left.flatMap String.utf8EncodeChar < right.flatMap String.utf8EncodeChar := by
  induction less with
  | @nil char rest =>
    have nonempty : String.utf8EncodeChar char ≠ [] := String.utf8EncodeChar_ne_nil
    rw [List.flatMap_nil, List.flatMap_cons]
    cases bytes : String.utf8EncodeChar char with
    | nil => exact absurd bytes nonempty
    | cons first others => exact List.nil_lt_cons first _
  | rel order => exact encodeChar_append_lt order _ _
  | cons _ ih => exact List.append_left_lt ih

/-- A text in front of another has its bytes in front as well. -/
theorem ofString_lt_of_lt {left right : String} (less : left < right) :
    ofString left < ofString right := by
  rw [ofString_eq_flatMap, ofString_eq_flatMap]
  exact encode_lt less

/-- The bytes of texts stand in the order of the texts. -/
theorem ofString_le_iff {left right : String} :
    ofString left ≤ ofString right ↔ left ≤ right := by
  constructor
  · intro below less
    exact below (ofString_lt_of_lt less)
  · intro below
    by_cases less : left < right
    · exact List.le_of_lt (ofString_lt_of_lt less)
    · rw [String.le_antisymm below (String.not_lt.mp less)]
      exact List.le_refl _

end Ferry.Bytes
