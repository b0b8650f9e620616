import Ferry.Proofs.Frame.Delivery
import Ferry.Stream

/-!
# What the buffer limit keeps out

A compressed batch holds some content, however long that is; a limit on the output only decides
whether the content is given out or refused as too long. So whatever an algorithm decompresses is
within the buffer limit, and whatever is longer is refused. A batch that is tagged as not
compressed is never decompressed, and nothing measures it: of these batches, each that can be
split into packets is accepted at any length.
-/

namespace Ferry

/-- Two steps succeed where the first does and the second does with what it gives. -/
theorem bind_eq_ok_iff {ε α β : Type} {first : Except ε α} {next : α → Except ε β} {result : β} :
    first >>= next = .ok result ↔ ∃ value, first = .ok value ∧ next value = .ok result := by
  cases first with
  | error fault => simp [bind, Except.bind]
  | ok value => simp [bind, Except.bind]

namespace Deflate

/-- What is given out under a limit. -/
def limited {α : Type} (limit size : Nat) (result : α) : Except Fault α :=
  if limit < size then .error .tooLong else .ok result

/-- What has grown beyond the limit early is beyond it in the end. -/
theorem limited_of_le {α : Type} {limit size total : Nat} {result : α} (grows : size ≤ total) :
    (if limit < size then .error .tooLong else limited limit total result) =
      limited limit total result := by
  split
  next long => rw [limited, if_pos (Nat.lt_of_lt_of_le long grows)]
  next => rfl

/-- A copy from further back makes the output longer by its length. -/
theorem size_copyBack (distance length : Nat) (out : ByteArray) :
    (copyBack distance length out).size = out.size + length := by
  induction length generalizing out with
  | zero => rfl
  | succ length ih =>
    rw [copyBack, ih, ByteArray.size_push]
    omega

/-- The symbols of a block come to the same output under every limit that it is within. -/
theorem symbols_of_ok {limit fuel : Nat} {literals distances : Code} {input left : BitInput}
    {out result : ByteArray}
    (read : symbols limit literals distances fuel input out = .ok (left, result)) :
    out.size ≤ result.size ∧ ∀ other,
      symbols other literals distances fuel input out =
        limited other result.size (left, result) := by
  -- Only the check of the size looks at the limit, and the output never shrinks, so a check that
  -- fails early only fails before the last one does.
  induction fuel generalizing input out with
  | zero => cases read
  | succ fuel ih =>
    rw [symbols] at read
    split at read
    · cases read
    obtain ⟨⟨symbol, rest⟩, decoded, goes⟩ := bind_eq_ok_iff.mp read
    dsimp only at goes
    split at goes
    next literal =>
      obtain ⟨grows, same⟩ := ih goes
      rw [ByteArray.size_push] at grows
      have longer : out.size ≤ result.size := Nat.le_of_succ_le grows
      refine ⟨longer, fun other => ?_⟩
      simp only [symbols, decoded, bind, Except.bind, if_pos literal, same]
      exact limited_of_le longer
    next notLiteral =>
      split at goes
      next ends =>
        cases goes
        refine ⟨Nat.le_refl _, fun other => ?_⟩
        simp only [symbols, decoded, bind, Except.bind, if_neg notLiteral, if_pos ends]
        rfl
      next goesOn =>
        obtain ⟨⟨length, _⟩, measured, goes⟩ := bind_eq_ok_iff.mp goes
        obtain ⟨⟨code, _⟩, coded, goes⟩ := bind_eq_ok_iff.mp goes
        obtain ⟨⟨distance, _⟩, placed, goes⟩ := bind_eq_ok_iff.mp goes
        obtain ⟨grows, same⟩ := ih goes
        rw [size_copyBack] at grows
        have longer : out.size ≤ result.size := Nat.le_trans (Nat.le_add_right _ _) grows
        refine ⟨longer, fun other => ?_⟩
        dsimp only at coded placed
        simp only [symbols, decoded, bind, Except.bind, if_neg notLiteral, if_neg goesOn, measured,
          coded, placed, same]
        exact limited_of_le longer

/-- A stored block makes no output shorter. -/
theorem stored_grows {input left : BitInput} {out result : ByteArray}
    (read : stored input out = .ok (left, result)) : out.size ≤ result.size := by
  unfold stored at read
  split at read
  next a b c d rest _ =>
    dsimp only at read
    split at read
    · cases read
    split at read
    next =>
      cases read
      rw [Bytes.size_foldl_push]
      exact Nat.le_add_right _ _
    next => cases read
  next => cases read

/-- A block comes to the same output under every limit, unless it stops where it is too long. -/
theorem block_of_ok {limit fuel type : Nat} {input left : BitInput} {out result : ByteArray}
    (read : block limit fuel type input out = .ok (left, result)) :
    out.size ≤ result.size ∧ ∀ other, block other fuel type input out = .ok (left, result) ∨
      block other fuel type input out = limited other result.size (left, result) := by
  unfold block at read ⊢
  split at read
  · exact ⟨stored_grows read, fun _ => .inl read⟩
  · obtain ⟨literals, made, read⟩ := bind_eq_ok_iff.mp read
    obtain ⟨distances, done, read⟩ := bind_eq_ok_iff.mp read
    obtain ⟨grows, same⟩ := symbols_of_ok read
    refine ⟨grows, fun other => .inr ?_⟩
    simp only [made, done, bind, Except.bind, same]
  · obtain ⟨⟨literals, distances, rest⟩, made, read⟩ := bind_eq_ok_iff.mp read
    obtain ⟨grows, same⟩ := symbols_of_ok read
    refine ⟨grows, fun other => .inr ?_⟩
    simp only [made, bind, Except.bind, same]
  · cases read

/-- All blocks come to the same output under every limit that it is within. -/
theorem blocks_of_ok {limit fuel : Nat} {input : BitInput} {out result : ByteArray}
    (read : blocks limit fuel input out = .ok result) :
    out.size ≤ result.size ∧
      ∀ other, blocks other fuel input out = limited other result.size result := by
  induction fuel generalizing input out with
  | zero => cases read
  | succ fuel ih =>
    rw [blocks] at read
    obtain ⟨⟨final, _⟩, marked, read⟩ := bind_eq_ok_iff.mp read
    obtain ⟨⟨type, _⟩, typed, read⟩ := bind_eq_ok_iff.mp read
    obtain ⟨⟨left, grown⟩, filled, read⟩ := bind_eq_ok_iff.mp read
    dsimp only at typed filled read
    obtain ⟨grows, same⟩ := block_of_ok filled
    have again (other : Nat) : blocks other (fuel + 1) input out =
        if other < grown.size then .error .tooLong
        else if final = 1 then .ok grown else blocks other fuel left grown := by
      rcases same other with kept | kept
      · simp only [blocks, marked, typed, kept, bind, Except.bind]
      · unfold limited at kept
        by_cases long : other < grown.size
        · rw [if_pos long] at kept ⊢
          simp only [blocks, marked, typed, kept, bind, Except.bind]
        · rw [if_neg long] at kept
          simp only [blocks, marked, typed, kept, bind, Except.bind]
    split at read
    · cases read
    split at read
    next last =>
      cases read
      refine ⟨grows, fun other => ?_⟩
      rw [again, if_pos last]
      rfl
    next goesOn =>
      obtain ⟨more, rest⟩ := ih read
      refine ⟨Nat.le_trans grows more, fun other => ?_⟩
      rw [again, if_neg goesOn, rest, limited_of_le more]

/-- A stream comes to the same output under every limit that it is within, and is too long under
every other. -/
theorem inflate_of_ok {limit : Nat} {stream content : Bytes}
    (read : inflate limit stream = .ok content) (other : Nat) :
    inflate other stream = limited other content.length content := by
  obtain ⟨out, filled, read⟩ := bind_eq_ok_iff.mp read
  cases read
  rw [inflate, (blocks_of_ok filled).2, Bytes.length_ofByteArray]
  unfold limited
  split
  next => rfl
  next => rfl

end Deflate

namespace Snappy

/-- The elements of a block fill the announced length exactly. -/
theorem size_of_elements {length fuel : Nat} {block : Bytes} {out result : ByteArray}
    (read : elements length fuel block out = some result) : result.size = length := by
  fun_induction elements length fuel block out with
  | case1 fuel out same =>
    cases read
    exact same
  | case6 fuel tag rest out literal count unread measured content left cut fits ih => exact ih read
  | case9 fuel tag rest out copies count distance left found fits ih => exact ih read
  | _ => cases read

/-- The content of a block is as long as the block announces. -/
theorem length_of_content {length : Nat} {block content : Bytes}
    (read : Snappy.content length block = some content) : content.length = length := by
  obtain ⟨out, filled, rfl⟩ := Option.map_eq_some_iff.mp read
  exact size_of_elements filled

end Snappy

namespace Algorithm

/-- Whether a payload decompresses to some content, however long that is. -/
def Expands : Algorithm → (payload content : Bytes) → Prop
  | none, payload, content => payload = content
  | zlib, payload, content => ∃ limit, Deflate.inflate limit payload = .ok content
  | snappy, payload, content => ∃ elements,
      Snappy.announced payload = some (content.length, elements) ∧
        Snappy.content content.length elements = some content

/-- How long content is said to be that is too long. The output of a stream is cut off behind the
first byte that is too many. -/
def reported : Algorithm → (length : Nat) → Nat
  | zlib, _ => bufferLimit + 1
  | _, length => length

variable {algorithm : Algorithm} {payload content : Bytes}

/-- Content that is too long is refused, and all other is given out. -/
theorem Expands.decompress (expands : algorithm.Expands payload content) :
    algorithm.decompress payload =
      if bufferLimit < content.length then .error (.tooLarge (algorithm.reported content.length))
      else .ok content := by
  unfold Algorithm.decompress
  cases algorithm with
  | none =>
    obtain rfl : payload = content := expands
    rfl
  | zlib =>
    obtain ⟨limit, read⟩ := expands
    simp only [Deflate.inflate_of_ok read, Deflate.limited]
    by_cases long : bufferLimit < content.length
    · simp only [if_pos long]
      rfl
    · simp only [if_neg long]
  | snappy =>
    obtain ⟨elements, announced, read⟩ := expands
    simp only [announced, read]
    rfl

/-- What is decompressed is what the payload expands to. -/
theorem expands_of_decompress (read : algorithm.decompress payload = .ok content) :
    algorithm.Expands payload content := by
  unfold Algorithm.decompress at read
  cases algorithm with
  | none =>
    dsimp only at read
    split at read
    next => cases read
    next =>
      cases read
      exact rfl
  | zlib =>
    dsimp only at read
    split at read
    next filled =>
      cases read
      exact ⟨bufferLimit, filled⟩
    next => cases read
    next => cases read
  | snappy =>
    dsimp only at read
    split at read
    · cases read
    next length elements announced =>
      split at read
      · cases read
      split at read
      next found =>
        cases read
        obtain rfl := Snappy.length_of_content found
        exact ⟨elements, announced, found⟩
      next => cases read

/-- Exactly the content within the limit is given out. -/
theorem decompress_eq_ok_iff : algorithm.decompress payload = .ok content ↔
    algorithm.Expands payload content ∧ content.length ≤ bufferLimit := by
  constructor
  · intro read
    have expands := expands_of_decompress read
    refine ⟨expands, Nat.le_of_not_lt fun long => ?_⟩
    rw [expands.decompress, if_pos long] at read
    cases read
  · rintro ⟨expands, short⟩
    rw [expands.decompress, if_neg (Nat.not_lt.mpr short)]

end Algorithm

/-- Whether a batch has kept uncompressed bytes within the buffer limit. -/
def Batch.IsWithin (batch : Batch) : Prop :=
  ∃ uncompressed, batch.uncompressed = some uncompressed ∧ uncompressed.length ≤ bufferLimit

namespace FrameCodec

/-- The compressed batch in a frame, and its algorithm. -/
def contents (codec : FrameCodec) (frame : Bytes) : Except FrameError (Algorithm × Bytes) := do
  let payload ← stripMarker frame
  let plain ← (codec.decrypt payload).1
  codec.strategy.readTag plain

/-- Whether a frame holds some content behind an algorithm, however long it is. -/
def Holds (codec : FrameCodec) (frame : Bytes) (algorithm : Algorithm) (content : Bytes) : Prop :=
  ∃ compressed, codec.contents frame = .ok (algorithm, compressed) ∧
    algorithm.Expands compressed content

/-- A frame is opened, expanded and split. -/
theorem decode_eq (codec : FrameCodec) (frame : Bytes) : (codec.decode frame).1 = (do
    let (algorithm, compressed) ← codec.contents frame
    let uncompressed ← expand algorithm compressed
    let packets ← split uncompressed
    .ok ⟨packets, some compressed, some uncompressed, algorithm, false, false⟩) := by
  unfold decode contents
  simp only [bind, Except.bind]
  cases stripMarker frame with
  | error fault => rfl
  | ok payload =>
    dsimp only
    cases decrypted : (codec.decrypt payload).1 with
    | error fault => rfl
    | ok plain =>
      simp only [decrypt_strategy, open?]
      cases codec.strategy.readTag plain with
      | error fault => rfl
      | ok tagged =>
        dsimp only
        cases expand tagged.1 tagged.2 with
        | error fault => rfl
        | ok uncompressed =>
          dsimp only
          cases split uncompressed with
          | error fault => rfl
          | ok packets => rfl

/-- Only what is not compressed is taken without being measured. -/
theorem expand_eq_ok_iff {algorithm : Algorithm} {compressed content : Bytes} :
    expand algorithm compressed = .ok content ↔ algorithm.Expands compressed content ∧
      (algorithm = .none ∨ content.length ≤ bufferLimit) := by
  cases algorithm with
  | none => simp [expand, Algorithm.Expands]
  | zlib => simp [expand, Algorithm.decompress_eq_ok_iff]
  | snappy => simp [expand, Algorithm.decompress_eq_ok_iff]

/-- A frame is accepted exactly where it holds content that splits into packets, and that is not
compressed or within the limit. -/
theorem decode_eq_ok_iff {codec : FrameCodec} {frame : Bytes} {batch : Batch} :
    (codec.decode frame).1 = .ok batch ↔ ∃ algorithm compressed content packets,
      codec.contents frame = .ok (algorithm, compressed) ∧ algorithm.Expands compressed content ∧
        (algorithm = .none ∨ content.length ≤ bufferLimit) ∧ split content = .ok packets ∧
        batch = ⟨packets, some compressed, some content, algorithm, false, false⟩ := by
  rw [decode_eq]
  constructor
  · intro decoded
    obtain ⟨⟨algorithm, compressed⟩, opened, decoded⟩ := bind_eq_ok_iff.mp decoded
    obtain ⟨content, expanded, decoded⟩ := bind_eq_ok_iff.mp decoded
    obtain ⟨packets, parted, decoded⟩ := bind_eq_ok_iff.mp decoded
    cases decoded
    obtain ⟨expands, short⟩ := expand_eq_ok_iff.mp expanded
    exact ⟨algorithm, compressed, content, packets, opened, expands, short, parted, rfl⟩
  · rintro ⟨algorithm, compressed, content, packets, opened, expands, short, parted, rfl⟩
    have expanded := expand_eq_ok_iff.mpr ⟨expands, short⟩
    simp only [opened, expanded, parted, bind, Except.bind]

/-- What is decrypted is no longer than what was encrypted. -/
theorem length_decrypt {codec : FrameCodec} {payload plain : Bytes}
    (decrypted : (codec.decrypt payload).1 = .ok plain) : plain.length ≤ payload.length := by
  unfold decrypt at decrypted
  split at decrypted
  · cases decrypted
    exact Nat.le_refl _
  next state _ =>
    dsimp only at decrypted
    unfold Encryption.decrypt at decrypted
    simp only [List.splitAt_eq] at decrypted
    split at decrypted
    · cases decrypted
    split at decrypted
    · cases decrypted
    · cases decrypted
      rw [List.length_take]
      omega

/-- The marker at least is not part of the batch in a frame. -/
theorem length_contents {codec : FrameCodec} {frame compressed : Bytes} {algorithm : Algorithm}
    (opened : codec.contents frame = .ok (algorithm, compressed)) :
    compressed.length < frame.length := by
  obtain ⟨payload, stripped, opened⟩ := bind_eq_ok_iff.mp opened
  obtain ⟨plain, decrypted, read⟩ := bind_eq_ok_iff.mp opened
  obtain ⟨-, rfl⟩ := Strategy.readTag_eq_ok_iff.mp read
  have behind : compressed.length ≤ (codec.strategy.withTag algorithm compressed).length := by
    unfold Strategy.withTag
    split <;> simp
  have within := length_decrypt decrypted
  unfold stripMarker at stripped
  split at stripped
  · cases stripped
  next first rest =>
    split at stripped
    · cases stripped
      rw [List.length_cons]
      omega
    · cases stripped

end FrameCodec

/-- The frames of a stream are within the limit. -/
theorem FrameReader.length_of_mem {reader : FrameReader} {bytes frame : Bytes}
    (mem : frame ∈ (reader.receive bytes).1) : frame.length ≤ bufferLimit := by
  have parted (held : Bytes) (mem : frame ∈ (split held).1) : frame.length ≤ bufferLimit := by
    fun_induction split held with
    | case1 a b c d rest length long => cases mem
    | case2 a b c d rest length fits short => cases mem
    | case3 a b c d rest length fits enough frames reader found ih =>
      rcases List.mem_cons.mp mem with rfl | mem
      · rw [List.length_take]
        omega
      · rw [found] at ih
        exact ih mem
    | case4 => cases mem
  unfold receive at mem
  split at mem
  · cases mem
  · exact parted _ mem

namespace FrameCodec

/-- A batch beyond the buffer limit is accepted exactly where it is tagged as not compressed and
can be split into packets. What is compressed and expands beyond the limit is refused as too long.
No batch beyond the limit comes off a stream, whose frames are within the limit themselves. -/
theorem decode_beyond_iff (codec : FrameCodec) (frame : Bytes) :
    ((∃ batch, (codec.decode frame).1 = .ok batch ∧ ¬batch.IsWithin) ↔
      ∃ content packets, codec.Holds frame .none content ∧ split content = .ok packets ∧
        bufferLimit < content.length) ∧
    (∀ algorithm content, codec.Holds frame algorithm content → algorithm ≠ .none →
      bufferLimit < content.length →
        (codec.decode frame).1 = .error (.tooLarge (algorithm.reported content.length))) ∧
    ∀ (reader : FrameReader) (bytes : Bytes), frame ∈ (reader.receive bytes).1 →
      ∀ batch, (codec.decode frame).1 = .ok batch → batch.IsWithin := by
  refine ⟨⟨?_, ?_⟩, ?_, ?_⟩
  · rintro ⟨batch, decoded, beyond⟩
    obtain ⟨algorithm, compressed, content, packets, opened, expands, measured, parted, rfl⟩ :=
      decode_eq_ok_iff.mp decoded
    have long : bufferLimit < content.length :=
      Nat.lt_of_not_le fun short => beyond ⟨content, rfl, short⟩
    obtain rfl | short := measured
    · exact ⟨content, packets, ⟨compressed, opened, expands⟩, parted, long⟩
    · exact absurd long (Nat.not_lt.mpr short)
  · rintro ⟨content, packets, ⟨compressed, opened, expands⟩, parted, long⟩
    refine ⟨_, decode_eq_ok_iff.mpr
      ⟨.none, compressed, content, packets, opened, expands, .inl rfl, parted, rfl⟩, ?_⟩
    rintro ⟨_, same, short⟩
    cases same
    exact absurd long (Nat.not_lt.mpr short)
  · rintro algorithm content ⟨compressed, opened, expands⟩ packed long
    have refused : expand algorithm compressed =
        .error (.tooLarge (algorithm.reported content.length)) := by
      have stops := expands.decompress
      rw [if_pos long] at stops
      cases algorithm with
      | none => exact absurd rfl packed
      | zlib => exact stops
      | snappy => exact stops
    rw [decode_eq]
    simp only [opened, refused, bind, Except.bind]
  · intro reader bytes mem batch decoded
    obtain ⟨algorithm, compressed, content, packets, opened, expands, measured, -, rfl⟩ :=
      decode_eq_ok_iff.mp decoded
    refine ⟨content, rfl, ?_⟩
    obtain rfl | short := measured
    · obtain rfl : compressed = content := expands
      have shorter := length_contents opened
      have fits := FrameReader.length_of_mem mem
      omega
    · exact short

/-- A codec that has agreed on compressing every batch. -/
def compressing : FrameCodec := { ofVersion .v712 with strategy := .tagged .zlib 0 }

/-- A frame of a compressing codec holds the content that was deflated into it. -/
theorem compressing_holds (content : Bytes) :
    compressing.Holds (marker :: Algorithm.zlib.tag :: Deflate.deflate content) .zlib content :=
  ⟨Deflate.deflate content, rfl, content.length, Deflate.inflate_deflate (Nat.le_refl _)⟩

/-- A stream that expands to one byte too many is refused. -/
theorem decode_beyond_zeros : (compressing.decode (marker :: Algorithm.zlib.tag ::
      Deflate.deflate (List.replicate (bufferLimit + 1) 0))).1 =
    .error (.tooLarge (bufferLimit + 1)) :=
  (decode_beyond_iff compressing _).2.1 .zlib _ (compressing_holds _) (by decide) (by
    rw [List.length_replicate]
    exact Nat.lt_succ_self _)

/-- A packet as long as a packet may be. -/
def longestPacket : BatchPacket :=
  BatchPacket.received (Header.ofId 0) (List.replicate (bufferLimit - 1) 0)

/-- The longest packet fills the limit exactly. -/
theorem length_longestPacket : (longestPacket.encode .v712).length = bufferLimit := by
  have header : (Header.ofId 0).encode.length = 1 := by
    rw [Header.encode, Varint.encode_of_lt (by decide)]
    rfl
  have body : (longestPacket.outgoingBody .v712).length = bufferLimit - 1 := List.length_replicate
  have positive : 0 < bufferLimit := by decide
  change ((Header.ofId 0).encode ++ longestPacket.outgoingBody .v712).length = bufferLimit
  rw [List.length_append, header, body]
  omega

/-- A frame with this packet alone, neither compressed nor encrypted. -/
def longestFrame : Bytes := marker :: Batch.encodePackets [longestPacket] .v712

/-- It is accepted, and its batch is longer than the limit by the length in front of the packet. -/
theorem beyond_accepted :
    ∃ batch, ((ofVersion .v712).decode longestFrame).1 = .ok batch ∧ batch.algorithm = .none ∧
      batch.uncompressed = some (Batch.encodePackets [longestPacket] .v712) ∧
        ¬batch.IsWithin := by
  have fits : ∀ packet ∈ [longestPacket], packet.Fits .v712 := by
    intro packet mem
    obtain rfl := List.mem_singleton.mp mem
    exact ⟨by decide, by decide, by decide, Nat.le_of_eq length_longestPacket⟩
  have parted := split_encodePackets fits
  have opened : (ofVersion .v712).contents longestFrame =
      .ok (.none, Batch.encodePackets [longestPacket] .v712) := rfl
  refine ⟨_, decode_eq_ok_iff.mpr ⟨.none, _, _, _, opened, rfl, .inl rfl, parted, rfl⟩, rfl, rfl,
    ?_⟩
  rintro ⟨_, same, short⟩
  cases same
  have row : Batch.encodePackets [longestPacket] .v712 =
      Batch.lengthPrefixed (longestPacket.encode .v712) := List.flatMap_singleton _ _
  have front := Varint.size_pos (min bufferLimit (UInt32.size - 1))
  rw [Varint.size] at front
  rw [row, Batch.lengthPrefixed, List.length_append, length_longestPacket] at short
  omega

end FrameCodec

end Ferry
