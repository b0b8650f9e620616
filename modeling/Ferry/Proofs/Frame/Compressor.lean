import Ferry.Frame.Error
import Ferry.Proofs.Wire.Reader

/-!
# Compressors that can be undone

Which bytes a compressor makes of a batch is its own affair; all that is asked of it is that they
decompress to the batch again. The plain compressor, which writes stored blocks and literals, is
such a compressor.
-/

namespace Ferry

/-- Whether all that a compressor makes, of content within the buffer limit, decompresses to the
content again. -/
def Compressor.RoundTrips (compressor : Compressor) : Prop :=
  ∀ (algorithm : Algorithm) (content : Bytes), content.length ≤ bufferLimit →
    algorithm.decompress (algorithm.compress content compressor) = .ok content

namespace Bytes

theorem length_ofByteArray (packed : ByteArray) : (ofByteArray packed).length = packed.size := rfl

/-- Bytes that are pushed one after another stand behind those that were there. -/
theorem ofByteArray_foldl_push (content : Bytes) (out : ByteArray) :
    ofByteArray (content.foldl ByteArray.push out) = ofByteArray out ++ content := by
  induction content generalizing out with
  | nil => simp
  | cons byte content ih =>
    have pushed : ofByteArray (out.push byte) = ofByteArray out ++ [byte] := Array.toList_push
    rw [List.foldl_cons, ih, pushed, List.append_assoc, List.singleton_append]

/-- Pushing bytes one by one makes an array longer by their number. -/
theorem size_foldl_push (content : Bytes) (out : ByteArray) :
    (content.foldl ByteArray.push out).size = out.size + content.length := by
  rw [← length_ofByteArray, ofByteArray_foldl_push, List.length_append, length_ofByteArray]

end Bytes

namespace Deflate

/-- A stored block takes five bytes more than its content. -/
theorem length_storedBlock (final : Bool) (content : Bytes) :
    (storedBlock final content).length = 5 + content.length := by
  simp [storedBlock]
  omega

/-- The content of a stored block is read behind its length and the complement of it. -/
theorem stored_storedBlock {content rest : Bytes} {pending count : Nat} {out : ByteArray}
    (short : content.length ≤ maxStored) :
    stored ⟨pending, count, Bytes.littleEndian 2 content.length ++
      Bytes.littleEndian 2 (maxStored - content.length) ++ content ++ rest⟩ out =
      .ok (⟨0, 0, rest⟩, content.foldl ByteArray.push out) := by
  unfold maxStored at short ⊢
  have length : content.length % 256 + 256 * (content.length / 256 % 256) = content.length := by
    omega
  have complement : content.length + ((65535 - content.length) % 256 +
      256 * ((65535 - content.length) / 256 % 256)) = 65535 := by
    omega
  simp [stored, Bytes.littleEndian, length, complement, List.splitAt_eq]

/-- A stored block is read whatever follows it. -/
theorem blocks_storedBlock {limit fuel : Nat} {final : Bool} {content rest : Bytes}
    {out : ByteArray} (short : content.length ≤ maxStored)
    (room : out.size + content.length ≤ limit) :
    blocks limit (fuel + 1) ⟨0, 0, storedBlock final content ++ rest⟩ out =
      if final then .ok (content.foldl ByteArray.push out)
      else blocks limit fuel ⟨0, 0, rest⟩ (content.foldl ByteArray.push out) := by
  have within : ¬limit < (content.foldl ByteArray.push out).size := by
    rw [Bytes.size_foldl_push]
    omega
  -- The bits of the first byte are the mark of the final block and the kind of the block, 0.
  have first : BitInput.bits 1 ⟨0, 0, storedBlock final content ++ rest⟩ =
      .ok (if final then 1 else 0, ⟨0, 7, Bytes.littleEndian 2 content.length ++
        Bytes.littleEndian 2 (maxStored - content.length) ++ content ++ rest⟩) := by
    cases final with
    | true => rfl
    | false => rfl
  have second (unread : Bytes) :
      BitInput.bits 2 ⟨0, 7, unread⟩ = .ok (0, ⟨0, 5, unread⟩) := by
    simp [BitInput.bits, BitInput.bit, bind, Except.bind]
  rw [blocks, first]
  simp only [bind, Except.bind, second, block, stored_storedBlock short, within, if_false]
  cases final with
  | true => rfl
  | false => rfl

/-- The final block ends the content, and nothing follows it. -/
theorem blocks_lastBlock {limit fuel : Nat} {content : Bytes} {out : ByteArray}
    (short : content.length ≤ maxStored) (enough : (storedBlock true content).length ≤ fuel)
    (room : out.size + content.length ≤ limit) :
    blocks limit fuel ⟨0, 0, storedBlock true content⟩ out =
      .ok (content.foldl ByteArray.push out) := by
  rw [length_storedBlock] at enough
  obtain ⟨fuel, rfl⟩ : ∃ left, fuel = left + 1 := ⟨fuel - 1, by omega⟩
  have read : blocks limit (fuel + 1) ⟨0, 0, storedBlock true content ++ []⟩ out = _ :=
    blocks_storedBlock short room
  rwa [List.append_nil, if_pos rfl] at read

/-- Content that fits into one block is written as one. -/
theorem storedBlocks_of_le {count : Nat} {content : Bytes} (short : content.length ≤ maxStored) :
    storedBlocks count content = storedBlock true content := by
  cases count with
  | zero => rfl
  | succ count =>
    unfold storedBlocks
    rw [List.splitAt_eq, List.drop_eq_nil_of_le short, List.take_of_length_le short]

/-- Of longer content, as much as fits is written as a block in front of the others. -/
theorem storedBlocks_of_lt {count : Nat} {content : Bytes} (long : maxStored < content.length) :
    storedBlocks (count + 1) content =
      storedBlock false (content.take maxStored) ++
        storedBlocks count (content.drop maxStored) := by
  rw [storedBlocks, List.splitAt_eq]
  cases left : content.drop maxStored with
  | nil => exact absurd (List.drop_eq_nil_iff.mp left) (Nat.not_le.mpr long)
  | cons byte rest => rfl

/-- All blocks are read, given enough fuel to write them and to read them. -/
theorem blocks_storedBlocks {limit fuel count : Nat} {content : Bytes} {out : ByteArray}
    (written : content.length ≤ count) (enough : (storedBlocks count content).length ≤ fuel)
    (room : out.size + content.length ≤ limit) :
    blocks limit fuel ⟨0, 0, storedBlocks count content⟩ out =
      .ok (content.foldl ByteArray.push out) := by
  induction count generalizing fuel content out with
  | zero =>
    have empty : content.length ≤ maxStored := Nat.le_trans written (Nat.zero_le _)
    rw [storedBlocks_of_le empty] at enough ⊢
    exact blocks_lastBlock empty enough room
  | succ count ih =>
    by_cases short : content.length ≤ maxStored
    · rw [storedBlocks_of_le short] at enough ⊢
      exact blocks_lastBlock short enough room
    · rw [storedBlocks_of_lt (Nat.not_le.mp short)] at enough ⊢
      rw [List.length_append, length_storedBlock] at enough
      have front : (content.take maxStored).length = maxStored := by
        rw [List.length_take]
        omega
      have back : (content.drop maxStored).length + maxStored = content.length := by
        rw [List.length_drop]
        omega
      have positive : 0 < maxStored := by decide
      obtain ⟨fuel, rfl⟩ : ∃ left, fuel = left + 1 := ⟨fuel - 1, by omega⟩
      rw [blocks_storedBlock (Nat.le_of_eq front) (by omega), if_neg Bool.false_ne_true,
        ih (by omega) (by omega) (by rw [Bytes.size_foldl_push]; omega), ← List.foldl_append,
        List.take_append_drop]

/-- What is deflated is inflated again, if it fits. -/
theorem inflate_deflate {limit : Nat} {content : Bytes} (room : content.length ≤ limit) :
    inflate limit (deflate content) = .ok content := by
  have all : blocks limit (8 * (deflate content).length + 1) ⟨0, 0, deflate content⟩
      ByteArray.empty = .ok (content.foldl ByteArray.push ByteArray.empty) := by
    apply blocks_storedBlocks (Nat.le_refl _)
    · change (deflate content).length ≤ _
      omega
    · simpa using room
  unfold inflate
  rw [all]
  change Except.ok (Bytes.ofByteArray _) = _
  rw [Bytes.ofByteArray_foldl_push]
  rfl

end Deflate

namespace Snappy

/-- A length that is short enough is read from in front of the elements. -/
theorem announced_encode {length : Nat} {elements : Bytes} (short : length ≤ maxLength) :
    announced (Varint.encode length ++ elements) = some (length, elements) := by
  have small : length < Nat.pow 128 5 := Nat.lt_of_le_of_lt short (by decide)
  have read : Varint.groups Varint.maxBytes32 (Varint.encode length ++ elements) = _ :=
    Varint.takes_groups.reads ⟨Varint.encode_isSpelled length, Varint.size_le small, rfl⟩ elements
  have number : Varint.ofGroups ((Varint.encode length).map fun byte => byte.toNat % 128) =
      length := Varint.number_encode length
  simp [announced, read, number, short]

/-- One literal that announces its length in four bytes is the whole content. -/
theorem content_literal {content : Bytes} (nonempty : content ≠ [])
    (short : content.length ≤ maxLength) :
    Snappy.content content.length
      (0xfc :: Bytes.littleEndian 4 (content.length - 1) ++ content) = .some content := by
  have positive := List.length_pos_iff.mpr nonempty
  have small : content.length - 1 < Nat.pow 256 4 := by
    unfold maxLength at short
    change content.length - 1 < UInt32.size
    omega
  have length : literalLength 0xfc (Bytes.littleEndian 4 (content.length - 1) ++ content) =
      .some (content.length, content) := by
    have announced := Bytes.ofLittleEndian_littleEndian 4 (content.length - 1)
    rw [Nat.mod_eq_of_lt small] at announced
    have restored : content.length - 1 + 1 = content.length := by omega
    simp [literalLength, List.splitAt_eq, announced, restored]
  have size : (content.foldl ByteArray.push ByteArray.empty).size = content.length := by
    simp [Bytes.size_foldl_push]
  have whole : Bytes.ofByteArray (content.foldl ByteArray.push ByteArray.empty) = content :=
    Bytes.ofByteArray_foldl_push content ByteArray.empty
  simp [Snappy.content, elements, length, List.splitAt_eq, size, whole]

/-- One literal element holds the whole content, and empty content needs none. -/
theorem content_elements {content : Bytes} (short : content.length ≤ maxLength) :
    Snappy.content content.length (if content.isEmpty then []
      else 0xfc :: Bytes.littleEndian 4 (content.length - 1) ++ content) = some content := by
  cases content with
  | nil => rfl
  | cons byte content => exact content_literal (List.cons_ne_nil byte content) short

end Snappy

/-- Stored blocks and literals give back what they hold. -/
theorem Compressor.plain_roundTrips : Compressor.plain.RoundTrips := by
  intro algorithm content room
  cases algorithm with
  | none =>
    unfold Algorithm.compress Algorithm.decompress
    simp [room]
  | zlib => simp [Algorithm.compress, plain, Algorithm.decompress, Deflate.inflate_deflate room]
  | snappy =>
    have short : content.length ≤ Snappy.maxLength := Nat.le_trans room (by decide)
    simp only [Algorithm.compress, plain, Snappy.compress, Algorithm.decompress,
      Snappy.announced_encode short, Snappy.content_elements short]
    rw [if_neg (Nat.not_lt.mpr room)]

end Ferry
