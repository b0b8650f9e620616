import Ferry.Proofs.Wire.LayoutRoundTrip
import Mathlib.Algebra.BigOperators.Fin
import Mathlib.Data.Nat.Log
import Mathlib.Tactic.Ring

/-!
# Numbers in groups of seven bits

What a variable-length integer is for its readers and its writers, on every input and at the
limits of the words. A reader goes on as long as bytes announce another, up to its limit; it fails
if the input ends before, or if the last byte within the limit still announces another; otherwise
the value is the sum of the groups, each at its place, in a word. A writer uses no more groups than
the bits of the number fill. Signed numbers are shifted by one and turned over by their sign, and
back.
-/

namespace Ferry

namespace Varint

/-! ## Sums of groups -/

/-- The sum of the groups of seven bits in the bytes, each at its place. -/
def groupSum (bytes : Bytes) : Nat :=
  ∑ place : Fin bytes.length, bytes[place].toNat % 128 * 2 ^ (7 * place.val)

/-- The number of a spelling is the sum of its groups. -/
theorem number_eq_groupSum (bytes : Bytes) : number bytes = groupSum bytes := by
  induction bytes with
  | nil => rfl
  | cons byte higher ih =>
    have first : groupSum (byte :: higher) = byte.toNat % 128 + 128 * groupSum higher := by
      simp only [groupSum, List.length_cons, Fin.sum_univ_succ, Finset.mul_sum]
      congr 1
      · simp
      · refine Finset.sum_congr rfl fun place _ => ?_
        have shift : 2 ^ (7 * (place.val + 1)) = 128 * 2 ^ (7 * place.val) := by
          rw [Nat.mul_succ, Nat.pow_add, Nat.mul_comm]
        simp [shift, Nat.mul_left_comm]
    rw [number_cons, ih, first]

/-- A word with one group more, shifted to its place. -/
def gather (word : UInt64) (group : UInt8 × Nat) : UInt64 :=
  word ||| (group.1 &&& 0x7f).toUInt64 <<< UInt64.ofNat (7 * group.2)

/-- The groups in the bytes, all in one word. -/
def gathered (bytes : Bytes) : UInt64 :=
  bytes.zipIdx.foldl gather 0

/-- The first group counts once, and those behind it 128 times. -/
theorem groupSum_cons (byte : UInt8) (higher : Bytes) :
    groupSum (byte :: higher) = byte.toNat % 128 + 128 * groupSum higher := by
  rw [← number_eq_groupSum, number_cons, number_eq_groupSum]

/-- A group behind the bits that are there already is added to them. -/
theorem gather_ofNat {bits place : Nat} (byte : UInt8) (below : bits < 2 ^ (7 * place))
    (inside : place < maxBytes64) : gather (UInt64.ofNat bits) (byte, place) =
      UInt64.ofNat (bits + 2 ^ (7 * place) * (byte.toNat % 128)) := by
  have low : (byte &&& 0x7f).toNat = byte.toNat % 128 := by
    rw [UInt8.toNat_and]
    exact Nat.and_two_pow_sub_one_eq_mod byte.toNat 7
  have shift : (UInt64.ofNat (7 * place)).toNat % 64 = 7 * place := by
    rw [UInt64.toNat_ofNat']
    simp only [maxBytes64] at inside
    omega
  rw [gather, ← UInt64.toNat_inj, UInt64.toNat_or, UInt64.toNat_shiftLeft, shift,
    UInt64.toNat_ofNat', UInt64.toNat_ofNat', UInt8.toNat_toUInt64, low, ← Nat.or_mod_two_pow,
    Nat.shiftLeft_eq, Nat.mul_comm (byte.toNat % 128), Nat.add_comm bits,
    Nat.two_pow_add_eq_or_of_lt below, Nat.or_comm]

/-- Groups that are put into a word behind some bits add to them, each at its place. -/
theorem foldl_gather (bytes : Bytes) {bits place : Nat} (below : bits < 2 ^ (7 * place))
    (inside : place + bytes.length ≤ maxBytes64) :
    (bytes.zipIdx place).foldl gather (UInt64.ofNat bits) =
      UInt64.ofNat (bits + 2 ^ (7 * place) * groupSum bytes) := by
  induction bytes generalizing bits place with
  | nil => rfl
  | cons byte higher ih =>
    rw [List.length_cons] at inside
    have width : 2 ^ (7 * (place + 1)) = 2 ^ (7 * place) * 128 := by
      rw [Nat.mul_succ, Nat.pow_add]
    have low := Nat.mod_lt byte.toNat (show 0 < 128 by decide)
    have above : bits + 2 ^ (7 * place) * (byte.toNat % 128) < 2 ^ (7 * (place + 1)) := by
      rw [width]
      calc bits + 2 ^ (7 * place) * (byte.toNat % 128)
        _ < 2 ^ (7 * place) + 2 ^ (7 * place) * (byte.toNat % 128) := by omega
        _ = 2 ^ (7 * place) * (byte.toNat % 128 + 1) := by ring
        _ ≤ 2 ^ (7 * place) * 128 := Nat.mul_le_mul_left _ low
    rw [List.zipIdx_cons, List.foldl_cons, gather_ofNat byte below (by omega), ih above (by omega),
      groupSum_cons, width]
    congr 1
    ring

/-- Groups that are shifted to their places in one word make their sum, up to the last bit of the
last group that has room in it. -/
theorem gathered_eq {bytes : Bytes} (short : bytes.length ≤ maxBytes64) :
    gathered bytes = UInt64.ofNat (groupSum bytes) := by
  have sum := foldl_gather bytes (show 0 < 2 ^ (7 * 0) by decide) (by
    rw [Nat.zero_add]
    exact short)
  rw [Nat.zero_add, Nat.mul_zero, Nat.pow_zero, Nat.one_mul] at sum
  exact sum

/-! ## What readers do on every input -/

section Readers

variable {α : Type} {reader : Reader α} {limit : Nat} {make : Nat → Nat → α}

/-- An input within whose first `limit` bytes there is one that announces no other: the first such
byte, and what is in front of it and behind. -/
structure Ended (limit : Nat) (input front : Bytes) (last : UInt8) (left : Bytes) : Prop where
  whole : input = front ++ last :: left
  short : front.length < limit
  more : ∀ byte ∈ front, 128 ≤ byte
  small : last < 128

/-- What a reader of at most `limit` groups does on every input, by the bytes at its front that
announce another. `make` makes the value of the sum of the groups and of their number. -/
structure Reads (reader : Reader α) (limit : Nat) (make : (sum count : Nat) → α) : Prop where
  /-- No more than the limit is consumed, also by a failure. -/
  atMost : ∀ input, ∃ taken left, input = taken ++ left ∧ taken.length ≤ limit ∧
    ((∃ value, reader input = .ok value left) ∨ ∃ fault, reader input = .error fault left)
  /-- The input ends within the limit, and all of its bytes announce another. -/
  runsOut : ∀ input, reader input = .error (.endOfStream 1 0) [] ↔
    input.length < limit ∧ ∀ byte ∈ input, 128 ≤ byte
  /-- All bytes within the limit announce another. -/
  tooLong : ∀ input, reader input = .error .varintTooLong (input.drop limit) ↔
    limit ≤ input.length ∧ ∀ byte ∈ input.take limit, 128 ≤ byte
  /-- The first byte within the limit that announces no other is the last one. -/
  otherwise : ∀ input, (∃ byte ∈ input.take limit, byte < 128) → ∃ front last left,
    Ended limit input front last left ∧
    reader input = .ok (make (groupSum (front ++ [last])) (front.length + 1)) left

/-- Where some byte within the limit announces no other, there is a first one. -/
theorem exists_ended {input : Bytes} (ends : ∃ byte ∈ input.take limit, byte < 128) :
    ∃ front last left, Ended limit input front last left := by
  induction input generalizing limit with
  | nil => simp at ends
  | cons first others ih =>
    cases limit with
    | zero => simp at ends
    | succ limit =>
      by_cases last : first < 128
      · exact ⟨[], first, others, rfl, Nat.succ_pos limit, by simp, last⟩
      · rw [List.take_succ_cons] at ends
        obtain ⟨byte, mem, small⟩ := ends
        have further : byte ∈ others.take limit :=
          (List.mem_cons.mp mem).resolve_left fun same => last (same ▸ small)
        obtain ⟨front, byte, left, ended⟩ := ih ⟨byte, further, small⟩
        exact ⟨first :: front, byte, left, by rw [ended.whole]; rfl,
          Nat.succ_lt_succ ended.short,
          List.forall_mem_cons.mpr ⟨UInt8.not_lt.mp last, ended.more⟩, ended.small⟩

/-- Every input ends early, is too long or has a last byte. -/
theorem input_cases (limit : Nat) (input : Bytes) :
    (input.length < limit ∧ ∀ byte ∈ input, 128 ≤ byte) ∨
      (limit ≤ input.length ∧ ∀ byte ∈ input.take limit, 128 ≤ byte) ∨
      ∃ byte ∈ input.take limit, byte < 128 := by
  by_cases ends : ∃ byte ∈ input.take limit, byte < 128
  · exact .inr (.inr ends)
  · have more : ∀ byte ∈ input.take limit, 128 ≤ byte :=
      fun byte mem => UInt8.not_lt.mp fun small => ends ⟨byte, mem, small⟩
    rcases Nat.lt_or_ge input.length limit with short | long
    · rw [List.take_of_length_le (Nat.le_of_lt short)] at more
      exact .inl ⟨short, more⟩
    · exact .inr (.inl ⟨long, more⟩)

/-- It is enough to say what a reader does in each of the three cases. -/
theorem Reads.of_cases
    (runsOut : ∀ input, input.length < limit → (∀ byte ∈ input, 128 ≤ byte) →
      reader input = .error (.endOfStream 1 0) [])
    (tooLong : ∀ input, limit ≤ input.length → (∀ byte ∈ input.take limit, 128 ≤ byte) →
      reader input = .error .varintTooLong (input.drop limit))
    (reads : ∀ input front last left, Ended limit input front last left →
      reader input = .ok (make (groupSum (front ++ [last])) (front.length + 1)) left) :
    Reads reader limit make := by
  have otherwise (input : Bytes) (ends : ∃ byte ∈ input.take limit, byte < 128) :
      ∃ front last left, Ended limit input front last left ∧
        reader input = .ok (make (groupSum (front ++ [last])) (front.length + 1)) left := by
    obtain ⟨front, last, left, ended⟩ := exists_ended ends
    exact ⟨front, last, left, ended, reads input front last left ended⟩
  refine ⟨fun input => ?_, fun input => ⟨fun failed => ?_, fun ⟨short, more⟩ => ?_⟩,
    fun input => ⟨fun failed => ?_, fun ⟨long, more⟩ => ?_⟩, otherwise⟩
  · rcases input_cases limit input with ⟨short, more⟩ | ⟨long, more⟩ | ends
    · exact ⟨input, [], (List.append_nil input).symm, Nat.le_of_lt short,
        .inr ⟨_, runsOut input short more⟩⟩
    · exact ⟨input.take limit, input.drop limit, (List.take_append_drop limit input).symm,
        List.length_take_le limit input, .inr ⟨_, tooLong input long more⟩⟩
    · obtain ⟨front, last, left, ended, read⟩ := otherwise input ends
      refine ⟨front ++ [last], left, by simp [ended.whole], ?_, .inl ⟨_, read⟩⟩
      rw [List.length_append]
      exact ended.short
  · rcases input_cases limit input with here | ⟨long, more⟩ | ends
    · exact here
    · cases failed.symm.trans (tooLong input long more)
    · obtain ⟨front, last, left, -, read⟩ := otherwise input ends
      cases failed.symm.trans read
  · exact runsOut input short more
  · rcases input_cases limit input with ⟨short, more⟩ | here | ends
    · cases failed.symm.trans (runsOut input short more)
    · exact here
    · obtain ⟨front, last, left, -, read⟩ := otherwise input ends
      cases failed.symm.trans read
  · exact tooLong input long more

/-- Groups that all announce another run out where the input ends within the limit. -/
theorem groups_of_runsOut {input : Bytes} (short : input.length < limit)
    (more : ∀ byte ∈ input, 128 ≤ byte) :
    groups limit input = .error (.endOfStream 1 0) [] := by
  induction limit generalizing input with
  | zero => exact absurd short (Nat.not_lt_zero _)
  | succ limit ih =>
    cases input with
    | nil => rfl
    | cons byte others =>
      obtain ⟨large, others_more⟩ := List.forall_mem_cons.mp more
      have failed := ih (Nat.lt_of_succ_lt_succ short) others_more
      simp [groups, bind, EStateM.bind, Reader.byte, UInt8.not_lt.mpr large, failed]

/-- Groups that all announce another are too long where the limit is reached. -/
theorem groups_of_tooLong {input : Bytes} (long : limit ≤ input.length)
    (more : ∀ byte ∈ input.take limit, 128 ≤ byte) :
    groups limit input = .error .varintTooLong (input.drop limit) := by
  induction limit generalizing input with
  | zero => rfl
  | succ limit ih =>
    cases input with
    | nil => exact absurd long (Nat.not_succ_le_zero _)
    | cons byte others =>
      rw [List.take_succ_cons] at more
      obtain ⟨large, others_more⟩ := List.forall_mem_cons.mp more
      have failed := ih (Nat.le_of_succ_le_succ long) others_more
      simp [groups, bind, EStateM.bind, Reader.byte, UInt8.not_lt.mpr large, failed]

/-- Bytes that announce another, and one that does not, spell a number. -/
theorem isSpelled_append {front : Bytes} {last : UInt8} (more : ∀ byte ∈ front, 128 ≤ byte)
    (small : last < 128) : IsSpelled (front ++ [last]) := by
  induction front with
  | nil => exact (isSpelled_cons_of_lt small).mpr rfl
  | cons byte front ih =>
    obtain ⟨large, others⟩ := List.forall_mem_cons.mp more
    exact (isSpelled_cons_of_ge (UInt8.not_lt.mpr large)).mpr (ih others)

/-- A value made of the sum and the number of the groups. -/
theorem reads_groups (make : Nat → Nat → α) :
    Reads (groups limit >>= fun digits => pure (make (ofGroups digits) digits.length)) limit
      make := by
  refine .of_cases (fun input short more => ?_) (fun input long more => ?_)
    fun input front last left ended => ?_
  · simp only [bind, EStateM.bind, groups_of_runsOut short more]
  · simp only [bind, EStateM.bind, groups_of_tooLong long more]
  · have short : (front ++ [last]).length ≤ limit := by
      rw [List.length_append]
      exact ended.short
    have taken := takes_groups.reads ⟨isSpelled_append ended.more ended.small, short, rfl⟩ left
    have whole : input = front ++ [last] ++ left := by simp [ended.whole]
    simp only [whole, bind, EStateM.bind, taken, List.length_map, List.length_append,
      List.length_singleton, ← number_eq_groupSum]
    rfl

end Readers

/-! ## Signed numbers -/

section Zigzag

variable {width : Nat}

/-- A word that is turned over counts from the other end. -/
theorem toInt_not_of_lt {word : BitVec (width + 1)} (low : word.toNat < 2 ^ width) :
    (~~~word).toInt = -(word.toNat : Int) - 1 := by
  have whole : 2 ^ (width + 1) = 2 * 2 ^ width := by rw [Nat.pow_succ, Nat.mul_comm]
  rw [BitVec.toInt_eq_toNat_cond, BitVec.toNat_not, whole, if_neg (by omega)]
  omega

/-- A word is shifted back by one and turned over by the bit that is lost. -/
theorem toInt_ofZigzag (raw : BitVec (width + 1)) :
    ((raw >>> 1) ^^^ -(raw &&& 1#(width + 1))).toInt = ofZigzag raw.toNat := by
  have whole : 2 ^ (width + 1) = 2 * 2 ^ width := by rw [Nat.pow_succ, Nat.mul_comm]
  have bound := raw.isLt
  have half : (raw >>> 1).toNat = raw.toNat / 2 := by
    rw [BitVec.toNat_ushiftRight, Nat.shiftRight_eq_div_pow, Nat.pow_one]
  have low : (raw >>> 1).toNat < 2 ^ width := by omega
  have one : (1#(width + 1)).toNat = 1 := by
    rw [BitVec.toNat_ofNat, Nat.mod_eq_of_lt (Nat.one_lt_two_pow (Nat.succ_ne_zero width))]
  have lowest : (raw &&& 1#(width + 1)).toNat = raw.toNat % 2 := by
    rw [BitVec.toNat_and, one, Nat.and_one_is_mod]
  rcases Nat.mod_two_eq_zero_or_one raw.toNat with even | odd
  · have cleared : raw &&& 1#(width + 1) = 0#(width + 1) :=
      BitVec.eq_of_toNat_eq (by rw [lowest, even]; rfl)
    rw [cleared, BitVec.neg_zero, BitVec.xor_zero, BitVec.toInt_eq_toNat_cond, if_pos (by omega),
      half, ofZigzag, if_pos even]
  · have lost : raw &&& 1#(width + 1) = 1#(width + 1) :=
      BitVec.eq_of_toNat_eq (by rw [lowest, odd, one])
    rw [lost, BitVec.neg_one_eq_allOnes, BitVec.xor_allOnes, toInt_not_of_lt low, half, ofZigzag,
      if_neg (by omega)]

/-- A word is shifted by one and turned over by its sign, which fills another word. -/
theorem toNat_zigzag (value : BitVec (width + 1)) :
    ((value <<< 1) ^^^ value.sshiftRight width).toNat = zigzag value.toInt := by
  have whole : 2 ^ (width + 1) = 2 * 2 ^ width := by rw [Nat.pow_succ, Nat.mul_comm]
  have bound := value.isLt
  have doubled : (value <<< 1).toNat = 2 * value.toNat % 2 ^ (width + 1) := by
    rw [BitVec.toNat_shiftLeft, Nat.shiftLeft_eq, Nat.mul_comm, Nat.pow_one]
  have gone {word : BitVec (width + 1)} (low : word.toNat < 2 ^ width) :
      word >>> width = 0#(width + 1) := by
    refine BitVec.eq_of_toNat_eq ?_
    rw [BitVec.toNat_ushiftRight, Nat.shiftRight_eq_div_pow, Nat.div_eq_of_lt low]
    rfl
  rw [BitVec.toInt_eq_msb_cond]
  cases negative : value.msb with
  | false =>
    have low := BitVec.msb_eq_false_iff_two_mul_lt.mp negative
    rw [BitVec.sshiftRight_eq_of_msb_false negative, gone (by omega), BitVec.xor_zero, doubled,
      Nat.mod_eq_of_lt low, if_neg Bool.false_ne_true, zigzag, if_pos (by omega)]
    omega
  | true =>
    have high := BitVec.msb_eq_true_iff_two_mul_ge.mp negative
    have wrapped : 2 * value.toNat % 2 ^ (width + 1) = 2 * value.toNat - 2 ^ (width + 1) := by
      rw [Nat.mod_eq_sub_mod high, Nat.mod_eq_of_lt (by omega)]
    have below : (~~~value).toNat < 2 ^ width := by
      rw [BitVec.toNat_not]
      omega
    rw [BitVec.sshiftRight_eq_of_msb_true negative, gone below, BitVec.not_zero,
      BitVec.xor_allOnes, BitVec.toNat_not, doubled, wrapped, if_pos rfl, zigzag, if_neg (by omega)]
    omega

end Zigzag

/-- The place of a signed number is what shifts make of it in 32 bits. -/
theorem zigzag_eq_shifts32 (value : Int32) :
    ((value <<< 1) ^^^ (value >>> 31)).toUInt32.toNat = zigzag value.toInt :=
  toNat_zigzag value.toBitVec

/-- The place of a signed number is what shifts make of it in 64 bits. -/
theorem zigzag_eq_shifts64 (value : Int64) :
    ((value <<< 1) ^^^ (value >>> 63)).toUInt64.toNat = zigzag value.toInt :=
  toNat_zigzag value.toBitVec

/-- The signed number of a place is what shifts make of it in 32 bits. -/
theorem ofZigzag_eq_shifts32 (raw : UInt32) :
    Int32.ofInt (ofZigzag raw.toNat) = (raw >>> 1).toInt32 ^^^ -(raw &&& 1).toInt32 := by
  rw [← Int32.ofInt_toInt ((raw >>> 1).toInt32 ^^^ -(raw &&& 1).toInt32)]
  exact congrArg Int32.ofInt (toInt_ofZigzag raw.toBitVec).symm

/-- The signed number of a place is what shifts make of it in 64 bits. -/
theorem ofZigzag_eq_shifts64 (raw : UInt64) :
    Int64.ofInt (ofZigzag raw.toNat) = (raw >>> 1).toInt64 ^^^ -(raw &&& 1).toInt64 := by
  rw [← Int64.ofInt_toInt ((raw >>> 1).toInt64 ^^^ -(raw &&& 1).toInt64)]
  exact congrArg Int64.ofInt (toInt_ofZigzag raw.toBitVec).symm

/-- The places of a word are those of the integers of that word. -/
theorem ofZigzag_bounds {place half : Nat} (small : place < 2 * half) :
    -(half : Int) ≤ ofZigzag place ∧ ofZigzag place < half := by
  unfold ofZigzag
  split <;> omega

/-! ## What writers write -/

/-- A number takes one byte, and one more for each further seven bits. -/
theorem size_eq_log2 (value : Nat) : size value = 1 + value.log2 / 7 := by
  induction value using Nat.strongRecOn with
  | ind value ih =>
    by_cases small : value < 128
    · have low : value.log2 < 7 := by
        rcases Nat.eq_zero_or_pos value with rfl | positive
        · decide
        · exact (Nat.log2_lt (Nat.pos_iff_ne_zero.mp positive)).mpr small
      rw [size_of_lt small, Nat.div_eq_of_lt low]
    · have shifted : (value / 128).log2 = value.log2 - 7 := by
        rw [Nat.log2_eq_log_two, Nat.log2_eq_log_two]
        exact Nat.log_div_base_pow 2 value 7
      have high : 7 ≤ value.log2 :=
        (Nat.le_log2 (by omega)).mpr (Nat.not_lt.mp small)
      rw [size_of_ge small, ih _ (by omega), shifted]
      omega

section Writers

variable {α : Type} {layout : Layout α} {limit : Nat} {place : α → Nat} {make : Nat → α}

/-- How the values of a layout are written, each as the number that is its place. -/
structure Writes (layout : Layout α) (place : α → Nat) : Prop where
  /-- One byte, and one more for each further seven bits of the number. -/
  length : ∀ value, (layout.write value).length = 1 + (place value).log2 / 7
  /-- Whatever is read as the value takes no fewer bytes. -/
  least : ∀ value input left, layout.read input = .ok value left →
    (layout.write value).length + left.length ≤ input.length
  /-- What is written is read back, and nothing of what follows. -/
  readsBack : ∀ value more, layout.read (layout.write value ++ more) = .ok value more

/-- It is enough to know the forms that are taken and the number that is written. -/
theorem Writes.of_takes (total : layout.Total)
    (takes : layout.read.Takes fun taken value =>
      IsSpelled taken ∧ taken.length ≤ limit ∧ value = make (number taken))
    (written : ∀ value, layout.write value = encode (place value))
    (le : ∀ number, place (make number) ≤ number) : Writes layout place where
  length value := by rw [written, ← size_eq_log2, size]
  least value input left read := by
    obtain ⟨taken, ⟨spelled, -, rfl⟩, rfl⟩ := (takes input value left).mp read
    have minimal : size (place (make (number taken))) ≤ taken.length :=
      (size_mono (le (number taken))).trans (size_number_le spelled)
    rw [written, List.length_append]
    exact Nat.add_le_add_right minimal _
  readsBack value more := total.readsBefore trivial more

end Writers

/-- How numbers of 32 bits are written. -/
theorem writes32 : Writes Layout.varUInt32 UInt32.toNat :=
  .of_takes Layout.varUInt32_total takes_read32 (fun _ => rfl) fun number => by
    rw [UInt32.toNat_ofNat']
    exact Nat.mod_le number _

/-- How numbers of 64 bits are written. -/
theorem writes64 : Writes Layout.varUInt64 UInt64.toNat :=
  .of_takes Layout.varUInt64_total takes_read64 (fun _ => rfl) fun number => by
    rw [UInt64.toNat_ofNat']
    exact Nat.mod_le number _

/-- How signed numbers of 32 bits are written. -/
theorem writesSigned32 : Writes Layout.varInt32 fun value =>
    ((value <<< 1) ^^^ (value >>> 31)).toUInt32.toNat := by
  let make (number : Nat) : Int32 := Int32.ofInt (ofZigzag (number % UInt32.size))
  have takes : Layout.varInt32.read.Takes fun taken value =>
      IsSpelled taken ∧ taken.length ≤ maxBytes32 ∧ value = make (number taken) :=
    takes_readSigned32
  simp only [zigzag_eq_shifts32]
  refine .of_takes Layout.varInt32_total takes (fun _ => rfl) fun number => ?_
  have inside : number % UInt32.size < 2 * 2 ^ 31 := Nat.mod_lt number (by decide)
  obtain ⟨least, most⟩ := ofZigzag_bounds inside
  have same : (make number).toInt = ofZigzag (number % UInt32.size) :=
    Int32.toInt_ofInt_of_le (by omega) (by omega)
  rw [same, zigzag_ofZigzag]
  exact Nat.mod_le number _

/-- How signed numbers of 64 bits are written. -/
theorem writesSigned64 : Writes Layout.varInt64 fun value =>
    ((value <<< 1) ^^^ (value >>> 63)).toUInt64.toNat := by
  let make (number : Nat) : Int64 := Int64.ofInt (ofZigzag (number % UInt64.size))
  have takes : Layout.varInt64.read.Takes fun taken value =>
      IsSpelled taken ∧ taken.length ≤ maxBytes64 ∧ value = make (number taken) :=
    takes_readSigned64
  simp only [zigzag_eq_shifts64]
  refine .of_takes Layout.varInt64_total takes (fun _ => rfl) fun number => ?_
  have inside : number % UInt64.size < 2 * 2 ^ 63 := Nat.mod_lt number (by decide)
  obtain ⟨least, most⟩ := ofZigzag_bounds inside
  have same : (make number).toInt = ofZigzag (number % UInt64.size) :=
    Int64.toInt_ofInt_of_le (by omega) (by omega)
  rw [same, zigzag_ofZigzag]
  exact Nat.mod_le number _

/-! ## What is read of groups -/

/-- What the reader of signed numbers of 32 bits does on every input. -/
theorem reads_readSigned32 : Reads readSigned32 maxBytes32 fun sum _ =>
    let raw := UInt32.ofNat sum
    (raw >>> 1).toInt32 ^^^ -(raw &&& 1).toInt32 := by
  simp only [readSigned32, read32, bind_assoc, pure_bind, ofZigzag_eq_shifts32]
  exact reads_groups fun sum _ =>
    (UInt32.ofNat sum >>> 1).toInt32 ^^^ -(UInt32.ofNat sum &&& 1).toInt32

/-- What the reader of signed numbers of 64 bits does on every input. -/
theorem reads_readSigned64 : Reads readSigned64 maxBytes64 fun sum _ =>
    let raw := UInt64.ofNat sum
    (raw >>> 1).toInt64 ^^^ -(raw &&& 1).toInt64 := by
  simp only [readSigned64, read64, bind_assoc, pure_bind, ofZigzag_eq_shifts64]
  exact reads_groups fun sum _ =>
    (UInt64.ofNat sum >>> 1).toInt64 ^^^ -(UInt64.ofNat sum &&& 1).toInt64

/-- What numbers of each kind are for their readers and their writers. A sum of groups is the same
as the groups shifted into one word, before it is cut to its 32 or 64 bits; and a signed number is
written as the number that shifting makes of it, and made of such a number by shifting. -/
theorem numbers_exact :
    Reads read32 5 (fun sum _ => UInt32.ofNat sum) ∧
    Reads sized32 5 (fun sum count => (UInt32.ofNat sum, count)) ∧
    Reads read64 10 (fun sum _ => UInt64.ofNat sum) ∧
    Reads readSigned32 5 (fun sum _ =>
      let raw := UInt32.ofNat sum
      (raw >>> 1).toInt32 ^^^ -(raw &&& 1).toInt32) ∧
    Reads readSigned64 10 (fun sum _ =>
      let raw := UInt64.ofNat sum
      (raw >>> 1).toInt64 ^^^ -(raw &&& 1).toInt64) ∧
    (∀ input : Bytes, gathered (input.take 10) = UInt64.ofNat (groupSum (input.take 10))) ∧
    Writes Layout.varUInt32 UInt32.toNat ∧
    (∀ value, (Layout.varUInt32.write value).length = size value.toNat) ∧
    Writes Layout.varUInt64 UInt64.toNat ∧
    Writes Layout.varInt32 (fun value => ((value <<< 1) ^^^ (value >>> 31)).toUInt32.toNat) ∧
    Writes Layout.varInt64 (fun value => ((value <<< 1) ^^^ (value >>> 63)).toUInt64.toNat) :=
  ⟨reads_groups fun sum _ => UInt32.ofNat sum,
    reads_groups fun sum count => (UInt32.ofNat sum, count),
    reads_groups fun sum _ => UInt64.ofNat sum, reads_readSigned32, reads_readSigned64,
    fun input => gathered_eq (List.length_take_le 10 input), writes32, fun _ => rfl, writes64,
    writesSigned32, writesSigned64⟩

/-- Bits beyond those of the word are dropped, and a longer spelling than needed is read. -/
example : read32 [0x85, 0x80, 0x80, 0x80, 0x10, 7] = .ok 5 [7] := by rfl

end Varint

end Ferry
