import Ferry.Frame.Codec
import Ferry.Proofs.Wire.Reader

/-!
# Where a batch is cut into packets

A batch is packets in a row, each behind its length. What is cut off for one packet is its
header, as it is spelled, and its body. The packet that is made of it begins its body after as
many bytes as the header takes when it is *written*; a header that is spelled in more bytes
leaves the rest of them in front of the body.
-/

namespace Ferry

namespace Header

/-- A header keeps the low fourteen bits of its number. -/
@[simp] theorem toNat_ofNat (number : Nat) : (ofNat number).toNat = number % 16384 := by
  simp [ofNat, toNat]
  omega

/-- A header is a spelled number, of which the low fourteen bits count. -/
theorem takes_read : read.Takes fun taken header =>
    Varint.IsSpelled taken ∧ taken.length ≤ Varint.maxBytes32 ∧
      header = ofNat (Varint.number taken % UInt32.size) := by
  refine Varint.takes_read32.bindPure.congr fun taken header => ?_
  constructor
  · rintro ⟨_, ⟨spelled, short, rfl⟩, rfl⟩
    exact ⟨spelled, short, by simp⟩
  · rintro ⟨spelled, short, rfl⟩
    exact ⟨_, ⟨spelled, short, rfl⟩, by simp⟩

/-- A header takes no more bytes when it is written than as it is spelled. -/
theorem size_le_length {spelling : Bytes} (spelled : Varint.IsSpelled spelling) :
    Varint.size (ofNat (Varint.number spelling % UInt32.size)).toNat ≤ spelling.length := by
  refine Nat.le_trans (Varint.size_mono ?_) (Varint.size_number_le spelled)
  rw [toNat_ofNat]
  exact Nat.le_trans (Nat.mod_le _ _) (Nat.mod_le _ _)

end Header

/-- What is cut off a batch for one packet. -/
structure Slice where
  /-- How many bytes follow, as it is spelled. -/
  length : Bytes
  /-- The header as it is spelled. -/
  spelling : Bytes
  header : Header
  /-- What follows the header. -/
  body : Bytes

namespace Slice

/-- The bytes of a slice, the length in front of it included. -/
def bytes (slice : Slice) : Bytes := slice.length ++ slice.spelling ++ slice.body

/-- Whether the length and the header of a slice are read off it: the length is that of the
header and the body, and what the header leaves unread is the body. -/
structure IsRead (slice : Slice) : Prop where
  length : ∃ length, Varint.read32 slice.length = .ok length [] ∧
    length.toNat = (slice.spelling ++ slice.body).length
  header : Header.read (slice.spelling ++ slice.body) = .ok slice.header slice.body

/-- The bytes of a spelled header that are more than the header takes when it is written. -/
def excess (slice : Slice) : Bytes := slice.spelling.drop (Varint.size slice.header.toNat)

/-- The packet that is made of a slice. -/
def packet (slice : Slice) : BatchPacket :=
  BatchPacket.received slice.header (slice.excess ++ slice.body)

variable {slice : Slice}

/-- The header of a slice is spelled by the bytes it was read from. -/
theorem IsRead.spelled (read : slice.IsRead) : Varint.IsSpelled slice.spelling ∧
    slice.header = Header.ofNat (Varint.number slice.spelling % UInt32.size) := by
  obtain ⟨taken, ⟨spelled, -, header⟩, whole⟩ := (Header.takes_read _ _ _).mp read.header
  obtain rfl : slice.spelling = taken := List.append_cancel_right whole
  exact ⟨spelled, header⟩

/-- A header is spelled with no fewer bytes than the shortest spelling. -/
theorem IsRead.size_le (read : slice.IsRead) :
    Varint.size slice.header.toNat ≤ slice.spelling.length := by
  obtain ⟨spelled, header⟩ := read.spelled
  rw [header]
  exact Header.size_le_length spelled

/-- A header leaves nothing over exactly where it is spelled as it is written. -/
theorem IsRead.excess_eq_nil_iff (read : slice.IsRead) :
    slice.excess = [] ↔ slice.spelling = slice.header.encode := by
  obtain ⟨spelled, header⟩ := read.spelled
  rw [excess, List.drop_eq_nil_iff]
  constructor
  · intro short
    have same : slice.spelling.length = Varint.size slice.header.toNat :=
      Nat.le_antisymm short read.size_le
    -- Fourteen bits take at most two bytes, and two bytes hold no more than fourteen bits.
    have two : slice.spelling.length ≤ 2 := by
      rw [same, header, Header.toNat_ofNat]
      exact Varint.size_le (Nat.mod_lt _ (by decide))
    have small : Varint.number slice.spelling < 16384 :=
      Nat.lt_of_lt_of_le (Varint.number_lt slice.spelling) (Nat.pow_le_pow_right (by decide) two)
    have number : slice.header.toNat = Varint.number slice.spelling := by
      rw [header, Header.toNat_ofNat, Nat.mod_eq_of_lt (Nat.lt_trans small (by decide)),
        Nat.mod_eq_of_lt small]
    rw [Header.encode, number]
    rw [number] at same
    exact Varint.eq_encode_of_length spelled same
  · intro written
    rw [written]
    exact Nat.le_refl _

/-- The body of a packet is what follows the header exactly where the header is spelled as it is
written. -/
theorem IsRead.body_eq_iff (read : slice.IsRead) :
    slice.packet.body = slice.body ↔ slice.spelling = slice.header.encode := by
  rw [← read.excess_eq_nil_iff]
  exact List.append_left_eq_self

end Slice

namespace FrameCodec

/-- The packets that are split off a batch are made of slices that make up the batch. -/
theorem splitOnto_slices {read packets : List BatchPacket} {fuel : Nat} {input : Bytes}
    (enough : input.length ≤ fuel) (parted : splitOnto read fuel input = .ok packets) :
    ∃ slices : List Slice, input = slices.flatMap Slice.bytes ∧
      (∀ slice ∈ slices, slice.IsRead) ∧ packets = read.reverse ++ slices.map Slice.packet := by
  fun_induction splitOnto read fuel input with
  | case1 read fuel =>
    cases parted
    exact ⟨[], rfl, by simp, by simp⟩
  | case2 => simp at enough
  | case7 read fuel first others length rest counted bound packet last cut header unread found
      body ih =>
    obtain ⟨spelled, ⟨isSpelled, short, value⟩, whole⟩ :=
      (Varint.takes_read32 _ _ _).mp counted
    obtain ⟨_, ⟨rfl, long⟩, rfl⟩ := (Reader.takes_take _ _ _).mp cut
    obtain ⟨spelling, ⟨headed, few, known⟩, rfl⟩ := (Header.takes_read _ _ _).mp found
    have positive : 0 < spelled.length := by
      cases spelled with
      | nil => exact absurd isSpelled id
      | cons => exact Nat.succ_pos _
    have left : last.length ≤ fuel := by
      rw [whole] at enough
      simp only [List.length_append] at enough
      omega
    obtain ⟨slices, rfl, all, rfl⟩ := ih left parted
    let slice : Slice := ⟨spelled, spelling, header, unread⟩
    have reads : slice.IsRead := ⟨⟨length, (Varint.takes_read32 _ _ _).mpr
      ⟨spelled, ⟨isSpelled, short, value⟩, (List.append_nil _).symm⟩, long.symm⟩, found⟩
    have begins : body = slice.excess ++ unread :=
      List.drop_append_of_le_length reads.size_le
    refine ⟨slice :: slices, ?_, List.forall_mem_cons.mpr ⟨reads, all⟩, ?_⟩
    · rw [whole]
      simp [slice, Slice.bytes]
    · rw [begins]
      simp [slice, Slice.packet]
  | _ => cases parted

/-- The packets that a batch is split into are packets as received. -/
theorem received_of_split {input : Bytes} {packets : List BatchPacket}
    (parted : split input = .ok packets) :
    ∀ packet ∈ packets, packet = .received packet.header packet.body := by
  obtain ⟨slices, -, -, rfl⟩ := splitOnto_slices (Nat.le_refl _) parted
  intro packet mem
  obtain ⟨slice, -, rfl⟩ := List.mem_map.mp mem
  rfl

end FrameCodec

/-! ## Tags and payloads -/

namespace Algorithm

/-- Only its own tag stands for an algorithm. -/
theorem ofTag_eq_some_iff {tag : UInt8} {algorithm : Algorithm} :
    ofTag? tag = some algorithm ↔ tag = algorithm.tag := by
  constructor
  · intro found
    have same := List.find?_some found
    exact (of_decide_eq_true same).symm
  · rintro rfl
    cases algorithm with
    | none => rfl
    | zlib => rfl
    | snappy => rfl

end Algorithm

namespace Strategy

variable {strategy : Strategy} {algorithm : Algorithm} {payload compressed : Bytes}

/-- A payload is read as a compressed batch exactly where it is one behind its tag, and the
algorithm is one that the strategy accepts. -/
theorem readTag_eq_ok_iff : strategy.readTag payload = .ok (algorithm, compressed) ↔
    strategy.accepts algorithm = true ∧ payload = strategy.withTag algorithm compressed := by
  cases strategy with
  | disabled =>
    simp only [readTag, accepts, withTag, hasTag, Except.ok.injEq, Prod.mk.injEq,
      decide_eq_true_iff]
    constructor
    · rintro ⟨rfl, rfl⟩
      exact ⟨rfl, rfl⟩
    · rintro ⟨rfl, rfl⟩
      exact ⟨rfl, rfl⟩
  | fixed only =>
    simp only [readTag, accepts, withTag, hasTag, Except.ok.injEq, Prod.mk.injEq,
      decide_eq_true_iff]
    constructor
    · rintro ⟨rfl, rfl⟩
      exact ⟨rfl, rfl⟩
    · rintro ⟨rfl, rfl⟩
      exact ⟨rfl, rfl⟩
  | tagged preferred threshold =>
    simp only [accepts, withTag, hasTag, true_and, if_true]
    constructor
    · intro read
      unfold readTag at read
      dsimp only at read
      split at read
      · cases read
      next tag rest =>
        split at read
        next found =>
          cases read
          rw [Algorithm.ofTag_eq_some_iff.mp found]
        next => cases read
    · rintro rfl
      have found : Algorithm.ofTag? algorithm.tag = some algorithm :=
        Algorithm.ofTag_eq_some_iff.mpr rfl
      simp only [readTag, found]

end Strategy

namespace FrameCodec

/-- A payload is opened as a batch exactly where it is a compressed batch behind its tag, which
expands to packets in a row. -/
theorem open_eq_ok_iff {strategy : Strategy} {payload : Bytes} {batch : Batch} :
    (open? strategy payload).1 = .ok batch ↔
      ∃ algorithm compressed uncompressed packets, strategy.accepts algorithm = true ∧
        payload = strategy.withTag algorithm compressed ∧
        expand algorithm compressed = .ok uncompressed ∧ split uncompressed = .ok packets ∧
        batch = ⟨packets, some compressed, some uncompressed, algorithm, false, false⟩ := by
  constructor
  · intro opened
    unfold open? at opened
    split at opened
    · cases opened
    next algorithm compressed read =>
      obtain ⟨accepted, tagged⟩ := Strategy.readTag_eq_ok_iff.mp read
      split at opened
      · cases opened
      next uncompressed expanded =>
        dsimp only at opened
        split at opened
        · cases opened
        next packets parted =>
          cases opened
          exact ⟨algorithm, compressed, uncompressed, packets, accepted, tagged, expanded, parted,
            rfl⟩
  · rintro ⟨algorithm, compressed, uncompressed, packets, accepted, rfl, expanded, parted, rfl⟩
    have read : strategy.readTag (strategy.withTag algorithm compressed) =
        .ok (algorithm, compressed) := Strategy.readTag_eq_ok_iff.mpr ⟨accepted, rfl⟩
    unfold open?
    simp only [read, expanded, parted]

@[simp] theorem decrypt_strategy {codec : FrameCodec} {payload : Bytes} :
    (codec.decrypt payload).2.strategy = codec.strategy := by
  unfold decrypt
  cases codec.encryption <;> rfl

@[simp] theorem decrypt_version {codec : FrameCodec} {payload : Bytes} :
    (codec.decrypt payload).2.version = codec.version := by
  unfold decrypt
  cases codec.encryption <;> rfl

@[simp] theorem decode_version {codec : FrameCodec} {frame : Bytes} :
    (codec.decode frame).2.1.version = codec.version := by
  unfold decode
  split
  · rfl
  · dsimp only
    split <;> exact decrypt_version

/-- A frame that is accepted holds a payload that is opened. -/
theorem decode_opens {codec : FrameCodec} {frame : Bytes} {batch : Batch}
    (decoded : (codec.decode frame).1 = .ok batch) :
    ∃ payload, (open? codec.strategy payload).1 = .ok batch := by
  unfold decode at decoded
  split at decoded
  · cases decoded
  next payload stripped =>
    dsimp only at decoded
    split at decoded
    · cases decoded
    next plain decrypted =>
      rw [decrypt_strategy] at decoded
      exact ⟨plain, decoded⟩

/-- A batch whose frame is accepted was split from its uncompressed bytes. -/
theorem decode_splits {codec : FrameCodec} {frame : Bytes} {batch : Batch}
    (decoded : (codec.decode frame).1 = .ok batch) :
    ∃ uncompressed, batch.uncompressed = some uncompressed ∧
      split uncompressed = .ok batch.packets := by
  obtain ⟨payload, opened⟩ := decode_opens decoded
  obtain ⟨_, _, uncompressed, _, -, -, -, parted, rfl⟩ := open_eq_ok_iff.mp opened
  exact ⟨uncompressed, rfl, parted⟩

/-- The packets of a batch whose frame is accepted are made of slices that make up its
uncompressed bytes. The body of each is what follows its header on the wire, behind those bytes
of the header that are more than it takes when it is written; there are none exactly where the
header is spelled as it is written. -/
theorem decode_slices (codec : FrameCodec) (frame : Bytes) (batch : Batch)
    (decoded : (codec.decode frame).1 = .ok batch) :
    ∃ slices : List Slice, batch.uncompressed = some (slices.flatMap Slice.bytes) ∧
      (∀ slice ∈ slices, slice.IsRead) ∧
      batch.packets = slices.map (fun slice =>
        BatchPacket.received slice.header (slice.excess ++ slice.body)) ∧
      ∀ slice ∈ slices,
        slice.excess ++ slice.body = slice.body ↔ slice.spelling = slice.header.encode := by
  obtain ⟨uncompressed, kept, parted⟩ := decode_splits decoded
  obtain ⟨slices, rfl, read, packets⟩ := splitOnto_slices (Nat.le_refl _) parted
  exact ⟨slices, kept, read, packets, fun slice mem => (read slice mem).body_eq_iff⟩

/-- Two packets of kind 3 with one byte as their body. The header of the first is spelled with a
group of zeros at its end, that of the second with a bit above the fourteen. -/
def overlongSlices : List Slice :=
  [⟨[3], [0x83, 0], Header.ofId 3, [0xaa]⟩, ⟨[4], [0x83, 0x80, 1], Header.ofId 3, [0xbb]⟩]

/-- A frame with these packets, neither compressed nor encrypted. -/
def overlongFrame : Bytes := marker :: overlongSlices.flatMap Slice.bytes

/-- A frame with an overlong header: its surplus bytes go to the body. -/
theorem decode_slices_overlong :
    ∃ batch, ((ofVersion .v712).decode overlongFrame).1 = .ok batch ∧
      ∃ slices : List Slice, batch.uncompressed = some (slices.flatMap Slice.bytes) ∧
        (∀ slice ∈ slices, slice.IsRead) ∧
        batch.packets = slices.map (fun slice =>
          BatchPacket.received slice.header (slice.excess ++ slice.body)) ∧
        ∀ slice ∈ slices,
          slice.excess ++ slice.body = slice.body ↔ slice.spelling = slice.header.encode :=
  ⟨_, rfl, decode_slices (ofVersion .v712) overlongFrame _ rfl⟩

/-- Both packets are accepted, and what their headers have too much stands in front of their
bodies. -/
theorem overlong_headers_kept :
    ∃ batch, ((ofVersion .v712).decode overlongFrame).1 = .ok batch ∧
      batch.uncompressed = some (overlongSlices.flatMap Slice.bytes) ∧
      (∀ slice ∈ overlongSlices, slice.IsRead) ∧
      batch.packets.map BatchPacket.body = [[0, 0xaa], [0x80, 1, 0xbb]] ∧
      ¬batch.packets.map BatchPacket.body = overlongSlices.map Slice.body := by
  refine ⟨_, rfl, rfl, ?_, by decide +kernel, by decide +kernel⟩
  intro slice mem
  rcases List.mem_cons.mp mem with rfl | mem
  · exact ⟨⟨3, rfl, rfl⟩, rfl⟩
  · rw [List.mem_singleton.mp mem]
    exact ⟨⟨4, rfl, rfl⟩, rfl⟩

end FrameCodec

end Ferry
