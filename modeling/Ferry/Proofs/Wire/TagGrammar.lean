import Ferry.Proofs.Wire.LayoutRoundTrip
import Ferry.Wire.Tag

/-!
# Which byte strings are tags

The grammar of tags, apart from their reader: a tag is an end tag or a named payload, and payloads
nest through lists and compounds up to a depth. The reader takes exactly the tags of the grammar.
-/

namespace Ferry.Tag

/-- Whether a byte string is a text behind its length. -/
def SpellsText (bytes : Bytes) (text : String) : Prop :=
  ∃ spelled, Varint.IsSpelled spelled ∧ spelled.length ≤ Varint.maxBytes32 ∧
    Varint.number spelled % UInt32.size = (Bytes.ofString text).length ∧
    Layout.IsShort text ∧ bytes = spelled ++ Bytes.ofString text

/-- Whether a byte string is any text behind its length. -/
def IsText (bytes : Bytes) : Prop := ∃ text, SpellsText bytes text

/-- Whether a byte string is a signed number in at most `limit` groups. -/
def IsSigned (limit : Nat) (bytes : Bytes) : Prop :=
  Varint.IsSpelled bytes ∧ bytes.length ≤ limit

/-- Whether a byte string is a length, which is not negative. -/
def IsLength (bytes : Bytes) (length : Nat) : Prop :=
  IsSigned Varint.maxBytes32 bytes ∧
    (Int32.ofInt (Varint.ofZigzag (Varint.number bytes % UInt32.size))).toInt = length

/-- Whether a byte string is a type other than the end, a name, and a payload of that type. -/
def IsNamed (isPayload : UInt8 → Bytes → Prop) (bytes : Bytes) : Prop :=
  ∃ type name content, type ≠ endType ∧ IsText name ∧ isPayload type content ∧
    bytes = type :: name ++ content

/-- Whether a byte string is a length and as many pieces of one form. -/
def IsRow (isPiece : Bytes → Prop) (bytes : Bytes) : Prop :=
  ∃ (spelled : Bytes) (pieces : List Bytes), IsLength spelled pieces.length ∧
    (∀ piece ∈ pieces, isPiece piece) ∧ bytes = spelled ++ pieces.flatten

/-- Whether a byte string is a payload of a type that nests at most `levels` deep, itself
included. -/
def IsPayload : (levels : Nat) → (type : UInt8) → Bytes → Prop
  | 0, _, _ => False
  | levels + 1, type, bytes =>
    match Kind.ofType? type with
    | some .byte => bytes.length = 1
    | some .short => bytes.length = 2
    | some .int => IsSigned Varint.maxBytes32 bytes
    | some .long => IsSigned Varint.maxBytes64 bytes
    | some .float => bytes.length = 4
    | some .double => bytes.length = 8
    | some .byteArray => ∃ spelled content, IsLength spelled content.length ∧
        bytes = spelled ++ content
    | some .text => IsText bytes
    | some .list => ∃ element row, IsRow (IsPayload levels element) row ∧ bytes = element :: row
    | some .compound => ∃ children : List Bytes,
        (∀ child ∈ children, IsNamed (IsPayload levels) child) ∧
          bytes = children.flatten ++ [endType]
    | some .intArray => IsRow (IsSigned Varint.maxBytes32) bytes
    | some .longArray => IsRow (IsSigned Varint.maxBytes64) bytes
    | none => False

/-- Whether a byte string is one tag. -/
def IsTag (bytes : Bytes) : Prop :=
  bytes = [endType] ∨ IsNamed (IsPayload (maxDepth + 1)) bytes

section Parts

variable {α : Type} {reader : Reader α} {form : Bytes → α → Prop}

/-- A value that is forgotten keeps its written forms. -/
theorem takes_discard {isForm : Bytes → Prop} (takes : reader.Takes form)
    (same : ∀ taken, (∃ value, form taken value) ↔ isForm taken) :
    (discard reader).Takes fun taken _ => isForm taken := by
  refine takes.map.congr fun taken _ => ?_
  rw [← same]
  simp

/-- A payload of fixed size is any bytes of that number. -/
theorem takes_fixed {count : Nat} :
    (discard (Reader.take count)).Takes fun taken _ => taken.length = count :=
  takes_discard Reader.takes_take fun taken => by simp

/-- A payload of 32 bits is any spelling that is not too long. -/
theorem takes_int : (discard Varint.readSigned32).Takes fun taken _ =>
    IsSigned Varint.maxBytes32 taken :=
  takes_discard Varint.takes_readSigned32 fun taken => by simp [IsSigned]

/-- A payload of 64 bits is any spelling that is not too long. -/
theorem takes_long : (discard Varint.readSigned64).Takes fun taken _ =>
    IsSigned Varint.maxBytes64 taken :=
  takes_discard Varint.takes_readSigned64 fun taken => by simp [IsSigned]

/-- A length is any spelling of a number that is not negative. -/
theorem takes_length : length.Takes IsLength := by
  have step (value : Int32) : (if value < 0 then throw (.negativeTagLength value)
      else pure value.toInt.toNat : Reader Nat).Takes fun taken length =>
        taken = [] ∧ value.toInt = length := by
    split
    next negative =>
      refine Reader.takes_throw.congr fun taken length => ?_
      rw [Int32.lt_iff_toInt_lt] at negative
      simp only [Int32.toInt_zero] at negative
      rw [false_iff]
      omega
    next positive =>
      refine Reader.takes_pure.congr fun taken length => and_congr_right fun _ => ?_
      rw [Int32.lt_iff_toInt_lt] at positive
      simp only [Int32.toInt_zero] at positive
      omega
  refine (Varint.takes_readSigned32.bind step).congr fun taken length => ?_
  constructor
  · rintro ⟨front, _, _, ⟨spelled, short, rfl⟩, ⟨rfl, same⟩, rfl⟩
    rw [List.append_nil]
    exact ⟨⟨spelled, short⟩, same⟩
  · rintro ⟨⟨spelled, short⟩, same⟩
    exact ⟨taken, [], _, ⟨spelled, short, rfl⟩, ⟨rfl, same⟩, (List.append_nil taken).symm⟩

/-- A length and what stands behind it. -/
theorem takes_row {read : Nat → Reader Unit} {isPiece : Bytes → Prop}
    (row : ∀ count, (read count).Takes fun taken _ => ∃ pieces : List Bytes,
      pieces.length = count ∧ (∀ piece ∈ pieces, isPiece piece) ∧ taken = pieces.flatten) :
    (length >>= read).Takes fun taken _ => IsRow isPiece taken := by
  refine (takes_length.bind row).congr fun taken _ => ?_
  constructor
  · rintro ⟨spelled, _, _, counted, ⟨pieces, rfl, all, rfl⟩, rfl⟩
    exact ⟨spelled, pieces, counted, all, rfl⟩
  · rintro ⟨spelled, pieces, counted, all, rfl⟩
    exact ⟨spelled, _, _, counted, ⟨pieces, rfl, all, rfl⟩, rfl⟩

end Parts

section Compound

variable {read : UInt8 → Reader Unit} {isPayload : UInt8 → Bytes → Prop}

/-- A child behind its type: a name and a payload. -/
theorem takes_child (takes : ∀ type, (read type).Takes fun taken _ => isPayload type taken)
    (type : UInt8) : (Layout.text.read >>= fun _ => read type).Takes fun taken _ =>
      ∃ name content, IsText name ∧ isPayload type content ∧ taken = name ++ content := by
  refine (Layout.takes_text.bind fun _ => takes type).congr fun taken _ => ?_
  constructor
  · rintro ⟨name, content, text, spells, holds, rfl⟩
    exact ⟨name, content, ⟨text, spells⟩, holds, rfl⟩
  · rintro ⟨name, content, ⟨text, spells⟩, holds, rfl⟩
    exact ⟨name, content, text, spells, holds, rfl⟩

/-- The children of a compound are taken up to its end. -/
theorem children_reads (takes : ∀ type, (read type).Takes fun taken _ => isPayload type taken)
    {fuel : Nat} {input rest : Bytes} {done : Unit} (enough : input.length < fuel) :
    children read fuel input = .ok done rest ↔ ∃ named : List Bytes,
      (∀ child ∈ named, IsNamed isPayload child) ∧ input = named.flatten ++ [endType] ++ rest := by
  induction fuel generalizing input with
  | zero => omega
  | succ fuel ih =>
    cases input with
    | nil => simp [children, bind, EStateM.bind, Reader.byte]
    | cons type more =>
      rw [List.length_cons] at enough
      by_cases ends : type = endType
      · subst ends
        have left : children read (fuel + 1) (endType :: more) = .ok () more := rfl
        rw [left]
        constructor
        · intro same
          cases same
          exact ⟨[], by simp, rfl⟩
        · rintro ⟨named, all, whole⟩
          cases named with
          | nil =>
            cases whole
            rfl
          | cons child named =>
            obtain ⟨type, name, content, other, -, -, rfl⟩ := all child List.mem_cons_self
            exact absurd (List.cons.inj whole).1.symm other
      · have left : children read (fuel + 1) (type :: more) =
            ((Layout.text.read >>= fun _ => read type) >>= fun _ => children read fuel) more := by
          rw [bind_assoc]
          simp [children, bind, EStateM.bind, Reader.byte, ends]
        rw [left, Reader.bind_eq_ok_iff]
        constructor
        · rintro ⟨_, _, first, ran⟩
          obtain ⟨_, ⟨name, content, text, holds, rfl⟩, rfl⟩ :=
            (takes_child takes type _ _ _).mp first
          simp only [List.length_append] at enough
          obtain ⟨named, all, rfl⟩ := (ih (by omega)).mp ran
          exact ⟨(type :: name ++ content) :: named,
            List.forall_mem_cons.mpr ⟨⟨type, name, content, ends, text, holds, rfl⟩, all⟩, by simp⟩
        · rintro ⟨named, all, whole⟩
          cases named with
          | nil => exact absurd (List.cons.inj whole).1 ends
          | cons child named =>
            obtain ⟨⟨_, name, content, -, text, holds, rfl⟩, others⟩ := List.forall_mem_cons.mp all
            simp only [List.flatten_cons, List.cons_append, List.append_assoc] at whole
            obtain ⟨rfl, rfl⟩ := List.cons.inj whole
            rw [← List.append_assoc] at enough ⊢
            rw [List.length_append] at enough
            exact ⟨(), _, (takes_child takes type).reads ⟨name, content, text, holds, rfl⟩ _,
              (ih (by omega)).mpr ⟨named, others, by simp⟩⟩

/-- A compound is its named tags, one behind the other, and what closes it. -/
theorem takes_compound (takes : ∀ type, (read type).Takes fun taken _ => isPayload type taken) :
    Reader.Takes (fun input => children read (input.length + 1) input) fun taken _ =>
      ∃ named : List Bytes, (∀ child ∈ named, IsNamed isPayload child) ∧
        taken = named.flatten ++ [endType] := by
  intro input done rest
  rw [children_reads takes (Nat.lt_succ_self _)]
  constructor
  · rintro ⟨named, all, rfl⟩
    exact ⟨_, ⟨named, all, rfl⟩, rfl⟩
  · rintro ⟨_, ⟨named, all, rfl⟩, rfl⟩
    exact ⟨named, all, rfl⟩

end Compound

/-- A payload is taken off exactly where it is one. -/
theorem takes_payload (levels : Nat) (type : UInt8) :
    (payload levels type).Takes fun taken _ => IsPayload levels type taken := by
  induction levels generalizing type with
  | zero => exact Reader.takes_throw
  | succ levels ih =>
    unfold payload IsPayload
    cases Kind.ofType? type with
    | none => exact Reader.takes_throw
    | some kind =>
      cases kind with
      | byte | short | float | double => exact takes_fixed
      | int => exact takes_int
      | long => exact takes_long
      | byteArray =>
        refine (takes_length.bind fun count => takes_fixed).congr fun taken _ => ?_
        constructor
        · rintro ⟨spelled, content, _, counted, rfl, rfl⟩
          exact ⟨spelled, content, counted, rfl⟩
        · rintro ⟨spelled, content, counted, rfl⟩
          exact ⟨spelled, content, _, counted, rfl, rfl⟩
      | text => exact takes_discard Layout.takes_text fun _ => Iff.rfl
      | list =>
        have row (element : UInt8) : (do
            let count ← length
            Reader.skipMany count (payload levels element) : Reader Unit).Takes
            fun taken _ => IsRow (IsPayload levels element) taken :=
          takes_row fun count => (Reader.takes_skipMany (ih element)).congr fun _ _ => by simp
        refine (Reader.takes_byte.bind row).congr fun taken _ => ?_
        constructor
        · rintro ⟨_, back, element, rfl, isRow, rfl⟩
          exact ⟨element, back, isRow, rfl⟩
        · rintro ⟨element, back, isRow, rfl⟩
          exact ⟨[element], back, element, rfl, isRow, rfl⟩
      | compound => exact takes_compound ih
      | intArray =>
        exact takes_row fun count => (Reader.takes_skipMany takes_int).congr fun _ _ => by simp
      | longArray =>
        exact takes_row fun count => (Reader.takes_skipMany takes_long).congr fun _ _ => by simp

/-- What is skipped is a whole tag. -/
theorem takes_skip : skip.Takes fun taken _ => IsTag taken := by
  have step (type : UInt8) : (if type = endType then pure () else do
      let _ ← Layout.text.read
      payload (maxDepth + 1) type : Reader Unit).Takes fun taken _ =>
        type = endType ∧ taken = [] ∨ type ≠ endType ∧ ∃ name content, IsText name ∧
          IsPayload (maxDepth + 1) type content ∧ taken = name ++ content := by
    split
    next ends => exact Reader.takes_pure.congr fun _ _ => by simp [ends]
    next goes =>
      refine (Layout.takes_text.bind fun _ => takes_payload (maxDepth + 1) type).congr
        fun taken _ => ?_
      constructor
      · rintro ⟨name, content, text, spells, holds, rfl⟩
        exact .inr ⟨goes, name, content, ⟨text, spells⟩, holds, rfl⟩
      · rintro (⟨ends, -⟩ | ⟨-, name, content, ⟨text, spells⟩, holds, rfl⟩)
        · exact absurd ends goes
        · exact ⟨name, content, text, spells, holds, rfl⟩
  refine (Reader.takes_byte.bind step).congr fun taken _ => ?_
  constructor
  · rintro ⟨_, back, type, rfl, ⟨rfl, rfl⟩ | ⟨goes, name, content, isText, holds, rfl⟩, rfl⟩
    · exact .inl rfl
    · exact .inr ⟨type, name, content, goes, isText, holds, rfl⟩
  · rintro (rfl | ⟨type, name, content, goes, isText, holds, rfl⟩)
    · exact ⟨_, [], endType, rfl, .inl ⟨rfl, rfl⟩, rfl⟩
    · exact ⟨[type], _, type, rfl, .inr ⟨goes, name, content, isText, holds, rfl⟩, rfl⟩

/-- Tags are given back as they are. -/
theorem layout_exact : layout.Exact IsTag :=
  .ofTakes takes_skip.spanOf (fun _ isTag => ⟨rfl, (), isTag⟩) fun _ _ form => by
    obtain ⟨rfl, _, isTag⟩ := form
    exact isTag

end Ferry.Tag
