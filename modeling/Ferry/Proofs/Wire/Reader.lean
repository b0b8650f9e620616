import Ferry.Wire.Layout

/-!
# What readers take off their input

A reader takes a value off the front of its input. `Reader.Takes` says which byte strings it
takes, and as which values: its written forms. What follows a written form has no part in
reading it. There is one rule for each way to put readers together, so that the written forms
of a whole are found along the text of its reader.
-/

namespace Ferry

namespace Reader

variable {α β : Type} {reader : Reader α} {form : Bytes → α → Prop}

/-- A reader takes a byte string off its input as a value exactly when that is a written form of
the value, whatever follows. -/
def Takes (reader : Reader α) (form : Bytes → α → Prop) : Prop :=
  ∀ input value rest, reader input = .ok value rest ↔
    ∃ taken, form taken value ∧ input = taken ++ rest

/-- What follows the bytes that a reader takes has no part in reading them. -/
def Delimits (reader : Reader α) : Prop :=
  ∀ input value rest, reader input = .ok value rest →
    ∃ taken, input = taken ++ rest ∧ ∀ more, reader (taken ++ more) = .ok value more

/-- Only values with a property are read. -/
def Yields (reader : Reader α) (isValue : α → Prop) : Prop :=
  ∀ input value rest, reader input = .ok value rest → isValue value

/-- The forms that a reader takes may be said in other words. -/
theorem Takes.congr {other : Bytes → α → Prop} (takes : reader.Takes form)
    (same : ∀ taken value, form taken value ↔ other taken value) : reader.Takes other := by
  intro input value rest
  rw [takes input value rest]
  simp only [same]

/-- A written form is read whatever follows it. -/
theorem Takes.reads (takes : reader.Takes form) {taken : Bytes} {value : α}
    (written : form taken value) (more : Bytes) : reader (taken ++ more) = .ok value more :=
  (takes _ _ _).mpr ⟨taken, written, rfl⟩

/-- The written forms are the byte strings that are read with nothing left. -/
theorem Takes.whole_iff (takes : reader.Takes form) {taken : Bytes} {value : α} :
    reader taken = .ok value [] ↔ form taken value := by
  rw [takes taken value []]
  simp

/-- A reader that takes forms leaves what is behind them. -/
theorem Takes.delimits (takes : reader.Takes form) : reader.Delimits := by
  intro input value rest read
  obtain ⟨taken, written, rfl⟩ := (takes input value rest).mp read
  exact ⟨taken, rfl, takes.reads written⟩

/-- The written forms of a value are the byte strings that are read as it with nothing left. -/
theorem Delimits.takes (delimits : reader.Delimits) :
    reader.Takes fun taken value => reader taken = .ok value [] := by
  intro input value rest
  constructor
  · intro read
    obtain ⟨taken, rfl, reads⟩ := delimits input value rest read
    exact ⟨taken, by simpa using reads [], rfl⟩
  · rintro ⟨taken, read, rfl⟩
    obtain ⟨front, whole, reads⟩ := delimits taken value [] read
    rw [whole, List.append_nil]
    exact reads rest

section Rules

/-- A reader of nothing takes no bytes. -/
theorem takes_pure {value : α} :
    (pure value : Reader α).Takes fun taken result => taken = [] ∧ result = value := by
  intro input result rest
  change EStateM.Result.ok value input = .ok result rest ↔ _
  constructor
  · intro read
    cases read
    exact ⟨[], ⟨rfl, rfl⟩, rfl⟩
  · rintro ⟨_, ⟨rfl, rfl⟩, rfl⟩
    rfl

/-- A reader that only fails takes no form. -/
theorem takes_throw {fault : DecodeError} :
    (throw fault : Reader α).Takes fun _ _ => False := by
  intro input value rest
  change EStateM.Result.error fault input = .ok value rest ↔ _
  simp

/-- One value after another is read where the first is, and the other from what is left. -/
theorem bind_eq_ok_iff {next : α → Reader β} {input rest : Bytes} {result : β} :
    (reader >>= next) input = .ok result rest ↔
      ∃ value left, reader input = .ok value left ∧ next value left = .ok result rest := by
  change EStateM.bind reader next input = _ ↔ _
  unfold EStateM.bind
  cases ran : reader input with
  | error fault left => simp
  | ok value left =>
    constructor
    · exact fun read => ⟨value, left, rfl, read⟩
    · rintro ⟨_, _, ⟨⟩, read⟩
      exact read

/-- A value that is changed after it was read leaves what it leaves. -/
theorem map_eq_ok_iff {change : α → β} {input left : Bytes} {result : β} :
    (change <$> reader) input = .ok result left ↔
      ∃ value, reader input = .ok value left ∧ result = change value := by
  change EStateM.map change reader input = _ ↔ _
  unfold EStateM.map
  cases reader input with
  | error fault unread => simp
  | ok value unread =>
    constructor
    · intro same
      cases same
      exact ⟨value, rfl, rfl⟩
    · rintro ⟨_, ⟨⟩, rfl⟩
      rfl

/-- One value after another: their written forms stand one behind the other. -/
theorem Takes.bind {next : α → Reader β} {forms : α → Bytes → β → Prop}
    (first : reader.Takes form) (second : ∀ value, (next value).Takes (forms value)) :
    (reader >>= next).Takes fun taken result => ∃ front back value,
      form front value ∧ forms value back result ∧ taken = front ++ back := by
  intro input result rest
  rw [bind_eq_ok_iff]
  constructor
  · rintro ⟨value, left, ran, read⟩
    obtain ⟨front, ahead, rfl⟩ := (first _ _ _).mp ran
    obtain ⟨back, behind, rfl⟩ := (second value _ _ _).mp read
    exact ⟨front ++ back, ⟨front, back, value, ahead, behind, rfl⟩,
      (List.append_assoc front back rest).symm⟩
  · rintro ⟨_, ⟨front, back, value, ahead, behind, rfl⟩, rfl⟩
    rw [List.append_assoc]
    exact ⟨value, _, first.reads ahead _, (second value).reads behind rest⟩

/-- A value that is changed after it was read keeps its written forms. -/
theorem Takes.bindPure {change : α → β} (takes : reader.Takes form) :
    (reader >>= fun value => pure (change value)).Takes fun taken result =>
      ∃ value, form taken value ∧ result = change value := by
  refine (takes.bind fun value => takes_pure).congr fun taken result => ?_
  constructor
  · rintro ⟨front, _, value, written, ⟨rfl, rfl⟩, rfl⟩
    rw [List.append_nil]
    exact ⟨value, written, rfl⟩
  · rintro ⟨value, written, rfl⟩
    exact ⟨taken, [], value, written, ⟨rfl, rfl⟩, (List.append_nil taken).symm⟩

/-- A value that is changed by the way keeps its written forms. -/
theorem Takes.map {change : α → β} (takes : reader.Takes form) :
    (change <$> reader).Takes fun taken result =>
      ∃ value, form taken value ∧ result = change value := by
  intro input result rest
  rw [map_eq_ok_iff]
  constructor
  · rintro ⟨value, ran, changed⟩
    obtain ⟨taken, written, rfl⟩ := (takes _ _ _).mp ran
    exact ⟨taken, ⟨value, written, changed⟩, rfl⟩
  · rintro ⟨taken, ⟨value, written, changed⟩, rfl⟩
    exact ⟨value, takes.reads written rest, changed⟩

/-- A byte is its own form. -/
theorem takes_byte : byte.Takes fun taken value => taken = [value] := by
  intro input value rest
  cases input with
  | nil => simp [byte]
  | cons first others =>
    change EStateM.Result.ok first others = .ok value rest ↔ _
    simp

/-- A number of bytes are their own form. -/
theorem takes_take {count : Nat} :
    (take count).Takes fun taken value => taken = value ∧ value.length = count := by
  intro input value rest
  unfold take
  rw [List.splitAt_eq]
  dsimp only
  constructor
  · intro read
    split at read
    next long =>
      cases read
      exact ⟨_, ⟨rfl, long⟩, (List.take_append_drop count input).symm⟩
    next => cases read
  · rintro ⟨_, ⟨rfl, rfl⟩, rfl⟩
    simp

/-- Values in a row have their written forms in a row. -/
theorem takes_skipMany {count : Nat} (element : reader.Takes form) :
    (skipMany count reader).Takes fun taken _ => ∃ pieces : List Bytes,
      pieces.length = count ∧ (∀ piece ∈ pieces, ∃ value, form piece value) ∧
        taken = pieces.flatten := by
  induction count with
  | zero =>
    refine takes_pure.congr fun taken value => ?_
    constructor
    · rintro ⟨rfl, -⟩
      exact ⟨[], rfl, by simp, rfl⟩
    · rintro ⟨pieces, empty, -, rfl⟩
      rw [List.length_eq_zero_iff.mp empty]
      exact ⟨rfl, rfl⟩
  | succ count ih =>
    refine (element.bind fun _ => ih).congr fun taken _ => ?_
    constructor
    · rintro ⟨front, _, value, first, ⟨pieces, rfl, all, rfl⟩, rfl⟩
      exact ⟨front :: pieces, rfl, List.forall_mem_cons.mpr ⟨⟨value, first⟩, all⟩, rfl⟩
    · rintro ⟨pieces, long, all, rfl⟩
      obtain ⟨front, pieces, rfl⟩ := List.exists_cons_of_length_eq_add_one long
      obtain ⟨⟨value, first⟩, others⟩ := List.forall_mem_cons.mp all
      exact ⟨front, _, value, first, ⟨pieces, by simpa using long, others, rfl⟩, rfl⟩

/-- The very bytes that a reader takes are a written form of something. -/
theorem Takes.spanOf (takes : reader.Takes form) :
    reader.spanOf.Takes fun taken span => span = taken ∧ ∃ value, form taken value := by
  intro input span rest
  unfold Reader.spanOf
  constructor
  · intro read
    cases ran : reader input with
    | error fault left => simp [ran] at read
    | ok value left =>
      rw [ran] at read
      cases read
      obtain ⟨taken, written, rfl⟩ := (takes _ _ _).mp ran
      exact ⟨taken, ⟨by simp, value, written⟩, rfl⟩
  · rintro ⟨taken, ⟨rfl, value, written⟩, rfl⟩
    rw [takes.reads written]
    simp

end Rules

/-- A reader that only fails yields whatever is asked. -/
theorem yields_throw {fault : DecodeError} {isValue : α → Prop} :
    (throw fault : Reader α).Yields isValue := by
  intro input value rest read
  cases read

/-- A value that is changed after it was read is what the change makes of it. -/
theorem Yields.map {change : α → β} {isValue : α → Prop} {isResult : β → Prop}
    (yields : reader.Yields isValue) (forth : ∀ value, isValue value → isResult (change value)) :
    (change <$> reader).Yields isResult := by
  intro input result rest read
  obtain ⟨value, ran, rfl⟩ := map_eq_ok_iff.mp read
  exact forth value (yields _ _ _ ran)

/-- One reader after another ends by itself if both do. -/
theorem Delimits.bind {next : α → Reader β} (first : reader.Delimits)
    (second : ∀ value, (next value).Delimits) : (reader >>= next).Delimits :=
  (first.takes.bind fun value => (second value).takes).delimits

/-- A reader still ends by itself if its value is changed. -/
theorem Delimits.map {change : α → β} (delimits : reader.Delimits) :
    (change <$> reader).Delimits :=
  delimits.takes.map.delimits

/-- A reader that ends by itself does so any number of times. -/
theorem Delimits.manyOnto {count : Nat} {read : List α} (element : reader.Delimits) :
    (manyOnto reader count read).Delimits := by
  induction count generalizing read with
  | zero => exact takes_pure.delimits
  | succ count ih => exact element.bind fun _ => ih

/-- A whole body is read as a value when that leaves nothing. -/
theorem valueOf_whole {body : Bytes} {value : α} :
    (whole reader).valueOf body = .ok value ↔ reader body = .ok value [] := by
  unfold valueOf whole
  simp only [bind, EStateM.bind, pure, EStateM.pure]
  cases ran : reader body with
  | error fault left => simp
  | ok inner left => cases left <;> simp [finish]

end Reader

namespace Varint

/-- Whether a byte string is a number in groups of seven bits: each byte but the last says that
another follows. -/
def IsSpelled : Bytes → Prop
  | [] => False
  | byte :: higher => if byte < 128 then higher = [] else IsSpelled higher

/-- The number that is spelled in groups of seven bits. -/
def number (spelling : Bytes) : Nat :=
  ofGroups (spelling.map fun byte => byte.toNat % 128)

/-- No groups stand for zero. -/
@[simp] theorem number_nil : number [] = 0 := rfl

/-- The first group counts once, and those behind it 128 times. -/
@[simp] theorem number_cons {byte : UInt8} {higher : Bytes} :
    number (byte :: higher) = byte.toNat % 128 + 128 * number higher := rfl

/-- A byte that announces no other is the last one. -/
theorem isSpelled_cons_of_lt {byte : UInt8} {higher : Bytes} (last : byte < 128) :
    IsSpelled (byte :: higher) ↔ higher = [] := by
  simp [IsSpelled, last]

/-- Behind a byte that announces another there is a spelling. -/
theorem isSpelled_cons_of_ge {byte : UInt8} {higher : Bytes} (more : ¬byte < 128) :
    IsSpelled (byte :: higher) ↔ IsSpelled higher := by
  simp [IsSpelled, more]

/-- A byte that announces no other is its own group. -/
theorem toNat_mod_of_lt {byte : UInt8} (last : byte < 128) : byte.toNat % 128 = byte.toNat :=
  Nat.mod_eq_of_lt (UInt8.lt_iff_toNat_lt.mp last)

/-- A byte that announces another is its group and 128. -/
theorem toNat_mod_of_ge {byte : UInt8} (more : ¬byte < 128) :
    byte.toNat % 128 = byte.toNat - 128 := by
  have small := byte.toNat_lt
  have large : 128 ≤ byte.toNat := by simpa [UInt8.lt_iff_toNat_lt] using more
  omega

/-- Groups are taken up to the one that no other follows, if there are not too many. -/
theorem takes_groups {limit : Nat} : (groups limit).Takes fun taken digits =>
    IsSpelled taken ∧ taken.length ≤ limit ∧ digits = taken.map fun byte => byte.toNat % 128 := by
  induction limit with
  | zero =>
    refine Reader.takes_throw.congr fun taken digits => ?_
    cases taken <;> simp [IsSpelled]
  | succ limit ih =>
    have step (byte : UInt8) :
        (if byte < 128 then pure [byte.toNat] else do
          let higher ← groups limit
          pure ((byte.toNat - 128) :: higher) : Reader (List Nat)).Takes fun taken digits =>
          IsSpelled (byte :: taken) ∧ taken.length ≤ limit ∧
            digits = (byte :: taken).map fun byte => byte.toNat % 128 := by
      split
      next last =>
        refine Reader.takes_pure.congr fun taken digits => ?_
        rw [isSpelled_cons_of_lt last, List.map_cons, toNat_mod_of_lt last]
        constructor
        · rintro ⟨rfl, rfl⟩
          exact ⟨rfl, Nat.zero_le _, rfl⟩
        · rintro ⟨rfl, -, rfl⟩
          exact ⟨rfl, rfl⟩
      next more =>
        refine (ih.bind fun higher => Reader.takes_pure).congr fun taken digits => ?_
        rw [isSpelled_cons_of_ge more, List.map_cons, toNat_mod_of_ge more]
        constructor
        · rintro ⟨front, _, _, ⟨spelled, short, rfl⟩, ⟨rfl, rfl⟩, rfl⟩
          rw [List.append_nil]
          exact ⟨spelled, short, rfl⟩
        · rintro ⟨spelled, short, rfl⟩
          exact ⟨taken, [], _, ⟨spelled, short, rfl⟩, ⟨rfl, rfl⟩, (List.append_nil taken).symm⟩
    refine (Reader.takes_byte.bind step).congr fun taken digits => ?_
    constructor
    · rintro ⟨_, back, byte, rfl, ⟨spelled, short, rfl⟩, rfl⟩
      exact ⟨spelled, Nat.succ_le_succ short, rfl⟩
    · rintro ⟨spelled, short, rfl⟩
      cases taken with
      | nil => exact absurd spelled id
      | cons byte back =>
        exact ⟨[byte], back, byte, rfl, ⟨spelled, Nat.le_of_succ_le_succ short, rfl⟩, rfl⟩

/-- A word whose number is read in groups; bits that do not fit it are dropped. -/
theorem takes_number {limit : Nat} {α : Type} {make : Nat → α} :
    (groups limit >>= fun digits => pure (make (ofGroups digits)) : Reader α).Takes
      fun taken value => IsSpelled taken ∧ taken.length ≤ limit ∧ value = make (number taken) := by
  refine takes_groups.bindPure.congr fun taken value => ?_
  constructor
  · rintro ⟨_, ⟨spelled, short, rfl⟩, rfl⟩
    exact ⟨spelled, short, rfl⟩
  · rintro ⟨spelled, short, rfl⟩
    exact ⟨_, ⟨spelled, short, rfl⟩, rfl⟩

/-- The forms of a number of 32 bits are the spellings that are not too long. -/
theorem takes_read32 : read32.Takes fun taken value =>
    IsSpelled taken ∧ taken.length ≤ maxBytes32 ∧ value = UInt32.ofNat (number taken) :=
  takes_number

/-- The forms of a number of 64 bits are the spellings that are not too long. -/
theorem takes_read64 : read64.Takes fun taken value =>
    IsSpelled taken ∧ taken.length ≤ maxBytes64 ∧ value = UInt64.ofNat (number taken) :=
  takes_number

/-- A signed number is read from its place in the order of magnitudes. -/
theorem takes_readSigned32 : readSigned32.Takes fun taken value =>
    IsSpelled taken ∧ taken.length ≤ maxBytes32 ∧
      value = Int32.ofInt (ofZigzag (number taken % UInt32.size)) := by
  refine takes_read32.bindPure.congr fun taken value => ?_
  constructor
  · rintro ⟨_, ⟨spelled, short, rfl⟩, rfl⟩
    exact ⟨spelled, short, by simp⟩
  · rintro ⟨spelled, short, rfl⟩
    exact ⟨_, ⟨spelled, short, rfl⟩, by simp⟩

/-- The forms of a signed number of 64 bits are the spellings that are not too long. -/
theorem takes_readSigned64 : readSigned64.Takes fun taken value =>
    IsSpelled taken ∧ taken.length ≤ maxBytes64 ∧
      value = Int64.ofInt (ofZigzag (number taken % UInt64.size)) := by
  refine takes_read64.bindPure.congr fun taken value => ?_
  constructor
  · rintro ⟨_, ⟨spelled, short, rfl⟩, rfl⟩
    exact ⟨spelled, short, by simp⟩
  · rintro ⟨spelled, short, rfl⟩
    exact ⟨_, ⟨spelled, short, rfl⟩, by simp⟩

/-! ## Written numbers -/

/-- A number below 128 is spelled in one byte. -/
theorem encode_of_lt {value : Nat} (small : value < 128) : encode value = [UInt8.ofNat value] := by
  rw [encode, if_pos small]

/-- A larger number is spelled with its lowest group in front. -/
theorem encode_of_ge {value : Nat} (large : ¬value < 128) :
    encode value = UInt8.ofNat (128 + value % 128) :: encode (value / 128) := by
  rw [encode, if_neg large]

/-- The last group announces no other. -/
theorem lastGroup_lt {value : Nat} (small : value < 128) : UInt8.ofNat value < 128 := by
  rw [UInt8.lt_iff_toNat_lt]
  simpa [Nat.mod_eq_of_lt (show value < 256 by omega)] using small

/-- A group in front of others announces another. -/
theorem group_ge (value : Nat) : ¬UInt8.ofNat (128 + value % 128) < 128 := by
  rw [UInt8.lt_iff_toNat_lt]
  have low := Nat.mod_lt value (show 0 < 128 by decide)
  simp
  omega

/-- What is written is a spelling. -/
theorem encode_isSpelled (value : Nat) : IsSpelled (encode value) := by
  induction value using Nat.strongRecOn with
  | ind value ih =>
    by_cases small : value < 128
    · rw [encode_of_lt small]
      exact (isSpelled_cons_of_lt (lastGroup_lt small)).mpr rfl
    · rw [encode_of_ge small]
      exact (isSpelled_cons_of_ge (group_ge value)).mpr (ih _ (by omega))

/-- What is written spells the number. -/
@[simp] theorem number_encode (value : Nat) : number (encode value) = value := by
  induction value using Nat.strongRecOn with
  | ind value ih =>
    by_cases small : value < 128
    · rw [encode_of_lt small]
      simp
      omega
    · rw [encode_of_ge small, number_cons, ih _ (by omega)]
      simp
      omega

/-- A number below 128 takes one byte. -/
theorem size_of_lt {value : Nat} (small : value < 128) : size value = 1 := by
  rw [size, encode_of_lt small, List.length_singleton]

/-- A larger number takes one byte more than what is left of it. -/
theorem size_of_ge {value : Nat} (large : ¬value < 128) : size value = size (value / 128) + 1 := by
  rw [size, encode_of_ge large, List.length_cons, size]

/-- Every number takes a byte at least. -/
theorem size_pos (value : Nat) : 0 < size value := by
  by_cases small : value < 128
  · simp [size_of_lt small]
  · simp [size_of_ge small]

/-- A larger number takes no fewer bytes. -/
theorem size_mono {value other : Nat} (le : value ≤ other) : size value ≤ size other := by
  induction other using Nat.strongRecOn generalizing value with
  | ind other ih =>
    by_cases small : value < 128
    · rw [size_of_lt small]
      exact size_pos other
    · rw [size_of_ge small, size_of_ge (show ¬other < 128 by omega)]
      exact Nat.succ_le_succ (ih _ (by omega) (Nat.div_le_div_right le))

/-- Seven bits more are one byte more. -/
theorem size_le {count value : Nat} (small : value < Nat.pow 128 (count + 1)) :
    size value ≤ count + 1 := by
  induction count generalizing value with
  | zero => simp [size_of_lt (show value < 128 by simpa using small)]
  | succ count ih =>
    by_cases single : value < 128
    · rw [size_of_lt single]
      omega
    · rw [size_of_ge single]
      have higher : value / 128 < Nat.pow 128 (count + 1) :=
        Nat.div_lt_of_lt_mul (by rwa [Nat.mul_comm])
      exact Nat.succ_le_succ (ih higher)

/-- A spelling stands for a number below 128 to the power of its length. -/
theorem number_lt (spelling : Bytes) : number spelling < Nat.pow 128 spelling.length := by
  induction spelling with
  | nil => simp
  | cons byte higher ih =>
    rw [number_cons, List.length_cons,
      show Nat.pow 128 (higher.length + 1) = Nat.pow 128 higher.length * 128 from rfl]
    have low := Nat.mod_lt byte.toNat (show 0 < 128 by decide)
    omega

/-- A spelling is no shorter than the one in which a number is written. -/
theorem size_number_le {spelling : Bytes} (spelled : IsSpelled spelling) :
    size (number spelling) ≤ spelling.length := by
  cases spelling with
  | nil => exact absurd spelled id
  | cons byte higher => exact size_le (number_lt (byte :: higher))

/-- No other spelling is as short as the one in which a number is written. -/
theorem eq_encode_of_length {spelling : Bytes} (spelled : IsSpelled spelling)
    (short : spelling.length = size (number spelling)) : spelling = encode (number spelling) := by
  induction spelling with
  | nil => exact absurd spelled id
  | cons byte higher ih =>
    by_cases last : byte < 128
    · rw [isSpelled_cons_of_lt last] at spelled
      subst spelled
      have small : byte.toNat < 128 := UInt8.lt_iff_toNat_lt.mp last
      simp [Nat.mod_eq_of_lt small, encode_of_lt small]
    · rw [isSpelled_cons_of_ge last] at spelled
      have low := toNat_mod_of_ge last
      have large : 128 ≤ byte.toNat := by simpa [UInt8.lt_iff_toNat_lt] using last
      have bound := byte.toNat_lt
      rw [number_cons, List.length_cons] at short
      have many : ¬byte.toNat % 128 + 128 * number higher < 128 := by
        intro single
        rw [size_of_lt single] at short
        have empty := List.length_eq_zero_iff.mp (Nat.succ_inj.mp short)
        exact absurd spelled (by simp [empty, IsSpelled])
      have above : (byte.toNat % 128 + 128 * number higher) / 128 = number higher := by omega
      have below : 128 + (byte.toNat % 128 + 128 * number higher) % 128 = byte.toNat := by omega
      rw [size_of_ge many, above] at short
      rw [number_cons, encode_of_ge many, above, below, UInt8.ofNat_toNat,
        ← ih spelled (Nat.succ_inj.mp short)]

/-- A number in the range of its word is written in one of the forms in which it is read. -/
theorem encode_form {α : Type} {make : Nat → α} {original : α} {value : Nat} (limit : Nat)
    (small : value < Nat.pow 128 (limit + 1)) (same : make value = original) :
    IsSpelled (encode value) ∧ (encode value).length ≤ limit + 1 ∧
      original = make (number (encode value)) :=
  ⟨encode_isSpelled value, size_le small, by rw [number_encode, same]⟩

/-- Of the numbers of a signed word, each has its place in the unsigned word. -/
theorem zigzag_lt {value : Int} {half : Nat} (least : -(half : Int) ≤ value) (most : value < half) :
    zigzag value < 2 * half := by
  unfold zigzag
  split <;> omega

end Varint

end Ferry
