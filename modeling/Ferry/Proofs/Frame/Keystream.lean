import Ferry.Frame.Encryption
import Mathlib.Algebra.BigOperators.Group.List.Basic

/-!
# Both ends of an encrypted direction

Data are combined with a keystream that depends on the key and the position only, so combining
them again gives them back: provided that the keystream is as long as they are. That it is follows
from the size of the round keys, which the key schedule keeps. An end that receives opens what the
other end seals as long as both have got equally far.
-/

namespace Ferry

namespace Aes

/-- Two blocks are combined as far as both reach. -/
@[simp] theorem length_combine (left right : Bytes) :
    (combine left right).length = min left.length right.length :=
  List.length_zipWith

/-- Combining twice with the same bytes changes nothing, if there are enough of them. -/
theorem combine_combine {data stream : Bytes} (enough : data.length ≤ stream.length) :
    combine (combine data stream) stream = data := by
  induction data generalizing stream with
  | nil => rfl
  | cons byte data ih =>
    cases stream with
    | nil => simp at enough
    | cons pad stream =>
      have rest := ih (Nat.le_of_succ_le_succ enough)
      simp only [combine, List.zipWith_cons_cons] at rest ⊢
      rw [rest, UInt8.xor_assoc, UInt8.xor_self, UInt8.xor_zero]

/-! ## The sizes of round keys, blocks and keystreams -/

/-- A key schedule under construction: the words of the key at least, four bytes each. -/
structure IsSchedule (schedule : Array Word) : Prop where
  begun : 8 ≤ schedule.size
  words : ∀ word ∈ schedule, word.length = 4

namespace IsSchedule

variable {schedule : Array Word}

/-- Each of the last eight words of a schedule has four bytes. -/
theorem length_getD (valid : IsSchedule schedule) (back : Nat) (positive : 0 < back)
    (near : back ≤ 8) : (schedule.getD (schedule.size - back) []).length = 4 := by
  have inside : schedule.size - back < schedule.size := by
    have begun := valid.begun
    omega
  rw [Array.getD_eq_getD_getElem?, Array.getElem?_eq_getElem inside]
  exact valid.words _ (Array.getElem_mem inside)

/-- A word more makes a schedule a longer schedule. -/
theorem push (valid : IsSchedule schedule) {word : Word} (size : word.length = 4) :
    IsSchedule (schedule.push word) where
  begun := by
    rw [Array.size_push]
    exact Nat.le_succ_of_le valid.begun
  words other mem := by
    rcases Array.mem_push.mp mem with earlier | rfl
    · exact valid.words other earlier
    · exact size

/-- A word combined from two others is as long as they are. -/
theorem pushCombined (valid : IsSchedule schedule) {left right : Word} (first : left.length = 4)
    (second : right.length = 4) : IsSchedule (schedule.push (combine left right)) :=
  valid.push (by rw [length_combine, first, second, Nat.min_self])

/-- Each word that is added to a schedule is combined from words that it has already. -/
theorem expand (valid : IsSchedule schedule) (count : Nat) (constant : UInt8) :
    IsSchedule (Aes.expand count constant schedule) ∧
      (Aes.expand count constant schedule).size = schedule.size + count := by
  induction count generalizing constant schedule with
  | zero => exact ⟨valid, rfl⟩
  | succ count ih =>
    have previous := valid.length_getD 1 (by omega) (by omega)
    have earlier := valid.length_getD 8 (by omega) (by omega)
    have step {word : Word} {next : UInt8} (size : word.length = 4) :
        IsSchedule (Aes.expand count next (schedule.push (combine
          (schedule.getD (schedule.size - 8) []) word))) ∧
        (Aes.expand count next (schedule.push (combine
          (schedule.getD (schedule.size - 8) []) word))).size = schedule.size + (count + 1) := by
      obtain ⟨kept, size⟩ := ih (valid.pushCombined earlier size) next
      rw [Array.size_push] at size
      exact ⟨kept, by omega⟩
    unfold Aes.expand
    dsimp only
    split
    · apply step
      rw [length_combine, List.length_map, List.length_append, List.length_drop, List.length_take,
        previous]
      rfl
    · split
      · exact step ((List.length_map _).trans previous)
      · exact step previous

end IsSchedule

/-- Every round key has the size of a block. -/
theorem length_of_mem_roundKeys {key round : Bytes} (long : key.length = 32)
    (mem : round ∈ roundKeys key) : round.length = blockSize := by
  let first : Array Word := (Array.range 8).map fun index => (key.drop (4 * index)).take 4
  have valid : IsSchedule first := by
    constructor
    · simp [first]
    · intro word among
      obtain ⟨index, within, rfl⟩ := Array.mem_map.mp among
      have within := Array.mem_range.mp within
      rw [List.length_take, List.length_drop, long]
      omega
  obtain ⟨kept, size⟩ := valid.expand (4 * (rounds + 1) - 8) 1
  obtain ⟨index, within, rfl⟩ := List.mem_map.mp mem
  have within := List.mem_range.mp within
  change ((Aes.expand (4 * (rounds + 1) - 8) 1 first).extract (4 * index)
    (4 * index + 4)).toList.flatten.length = _
  have words : ∀ count ∈ ((Aes.expand (4 * (rounds + 1) - 8) 1 first).extract (4 * index)
      (4 * index + 4)).toList.map List.length, count = 4 := by
    intro count among
    obtain ⟨word, taken, rfl⟩ := List.mem_map.mp among
    rw [Array.toList_extract, List.extract_eq_take_drop] at taken
    have inside := List.mem_of_mem_drop (List.mem_of_mem_take taken)
    exact kept.words word (Array.mem_toList_iff.mp inside)
  rw [List.length_flatten, List.sum_eq_card_nsmul _ _ words, List.length_map, Array.length_toList,
    Array.size_extract, size]
  have begun : first.size = 8 := by simp [first]
  rw [begun]
  unfold rounds at within ⊢
  unfold blockSize
  simp
  omega

/-- Adding a round key leaves a block a block. -/
theorem size_addKey {block : Array UInt8} {key : Bytes} (whole : block.size = blockSize)
    (long : key.length = blockSize) : (addKey block key).size = blockSize := by
  rw [addKey, List.size_toArray, length_combine, Array.length_toList, whole, long, Nat.min_self]

/-- Going through the rounds leaves a block a block. -/
theorem size_finishRounds {keys : List Bytes} {block : Array UInt8}
    (long : ∀ key ∈ keys, key.length = blockSize) (whole : block.size = blockSize) :
    (finishRounds keys block).size = blockSize := by
  fun_induction finishRounds keys block with
  | case1 block => exact whole
  | case2 key block => exact size_addKey (by simp [shiftRows]) (long key List.mem_cons_self)
  | case3 key keys block last ih =>
    apply ih
    · exact fun other mem => long other (List.mem_cons_of_mem key mem)
    · exact size_addKey (by simp [mixColumns]) (long key List.mem_cons_self)

/-- A block is encrypted into a block. -/
theorem length_encryptBlock {keys : List Bytes} {block : Bytes}
    (long : ∀ key ∈ keys, key.length = blockSize) (whole : block.length = blockSize) :
    (encryptBlock keys block).length = blockSize := by
  cases keys with
  | nil => exact whole
  | cons key keys =>
    rw [encryptBlock, Array.length_toList]
    apply size_finishRounds
    · exact fun other mem => long other (List.mem_cons_of_mem key mem)
    · exact size_addKey (by simpa using whole) (long key List.mem_cons_self)

/-- The keystream has as many blocks as are asked for. -/
theorem length_keystreamBlocks {keys : List Bytes} (count counter : Nat)
    (long : ∀ key ∈ keys, key.length = blockSize) :
    (keystreamBlocks keys count counter).length = blockSize * count := by
  induction count generalizing counter with
  | zero => rfl
  | succ count ih =>
    rw [keystreamBlocks, List.length_append, ih,
      length_encryptBlock long (Bytes.length_bigEndian _ _), Nat.mul_succ, Nat.add_comm]

/-- The keystream is as long as it is wanted, from any position on. -/
theorem length_keystream {key : Bytes} {start position length : Nat} (long : key.length = 32) :
    (keystream key start position length).length = length := by
  have rounded : ∀ round ∈ roundKeys key, round.length = blockSize :=
    fun _ mem => length_of_mem_roundKeys long mem
  have blocks := length_keystreamBlocks
    ((position % blockSize + length + (blockSize - 1)) / blockSize)
    (start + position / blockSize) rounded
  rw [keystream, List.length_take, List.length_drop, blocks]
  unfold blockSize
  omega

/-- Encryption keeps the length. -/
@[simp] theorem length_apply {key : Bytes} {start position : Nat} {data : Bytes}
    (long : key.length = 32) : (apply key start position data).length = data.length := by
  rw [apply, length_combine, length_keystream long, Nat.min_self]

/-- Data that are combined with the same part of a keystream twice are the data again. -/
theorem apply_apply {key : Bytes} {start position : Nat} {data : Bytes}
    (long : key.length = 32) : apply key start position (apply key start position data) = data := by
  have kept : (apply key start position data).length = data.length := length_apply long
  conv_lhs => rw [apply, kept, apply]
  exact combine_combine (Nat.le_of_eq (length_keystream long).symm)

end Aes

namespace Sha256

/-- The state of the hash keeps its eight words. -/
theorem size_blocks {input : Array UInt8} {count index : Nat} {hash : Array UInt32}
    (words : hash.size = 8) : (blocks input count index hash).size = 8 := by
  induction count generalizing index hash with
  | zero => exact words
  | succ count ih => exact ih rfl

/-- A digest has thirty-two bytes. -/
theorem length_digest (input : Bytes) : (digest input).length = 32 := by
  have words : (blocks (padded input) ((padded input).size / 64) 0 initial).size = 8 :=
    size_blocks rfl
  simp [digest, List.length_flatMap, words]

end Sha256

namespace Encryption

/-- A checksum is cut to its size. -/
@[simp] theorem length_checksum (key : Bytes) (frame : Nat) (payload : Bytes) :
    (checksum key frame payload).length = checksumSize := by
  rw [checksum, List.length_take, Sha256.length_digest]
  rfl

/-- Whether an end has received as much as another has sent, under the key of both. -/
structure Follows (receiving sending : Encryption) : Prop where
  long : sending.key.length = 32
  key : receiving.key = sending.key
  progress : receiving.received = sending.sent

/-- Two ends that begin with one key have got equally far. -/
theorem start_follows {key : Bytes} {validates other : Bool} (long : key.length = 32) :
    (start key validates).Follows (start key other) :=
  ⟨long, rfl, rfl⟩

/-- What is sealed at one end is opened at the other, which then has received as much as was
sent. -/
theorem Follows.opens {receiving sending : Encryption} (follows : receiving.Follows sending)
    (payload : Bytes) :
    (receiving.decrypt (sending.encrypt payload).1).1 = .ok payload ∧
      (receiving.decrypt (sending.encrypt payload).1).2.Follows (sending.encrypt payload).2 := by
  obtain ⟨long, key, progress⟩ := follows
  let plain := payload ++ checksum sending.key sending.sent.frames payload
  have size : plain.length = payload.length + checksumSize := by simp [plain]
  have sealedSize : (sending.encrypt payload).1.length = plain.length := Aes.length_apply long
  have opened : applyKeystream sending.key sending.sent.position
      (sending.encrypt payload).1 = plain := Aes.apply_apply long
  have decrypted : receiving.decrypt (sending.encrypt payload).1 =
      (.ok payload, { receiving with received := (sending.encrypt payload).2.sent }) := by
    unfold decrypt
    rw [key, progress, opened, sealedSize, size]
    simp [plain, encrypt, List.splitAt_eq]
  rw [decrypted]
  exact ⟨rfl, long, key, rfl⟩

end Encryption

end Ferry
