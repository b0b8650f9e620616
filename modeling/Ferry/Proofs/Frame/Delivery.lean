import Ferry.Proofs.Frame.Compressor
import Ferry.Proofs.Frame.Keystream
import Ferry.Proofs.Frame.Splitting

/-!
# What arrives of the batches that are sent

Two ends are in step while the one has received as much as the other has sent. A frame leaves them
in step and brings the batch across: its payload is opened as it was enclosed, its compressed bytes
expand to what the batch is written as, and that is split into the packets again. A batch goes
out in the bytes it came in, where it was not touched; these were opened before, by whatever
end received them, and are opened in the same way again.
-/

namespace Ferry

namespace Header

/-- A header whose fields have room in its number is found in the number again. -/
theorem ofNat_toNat {header : Header} (id : header.id.toNat < 1024)
    (sender : header.sender.toNat < 4) (target : header.target.toNat < 4) :
    ofNat header.toNat = header := by
  obtain ⟨_, _, _⟩ := header
  dsimp only at id sender target
  simp only [ofNat, toNat, mk.injEq]
  refine ⟨?_, ?_, ?_⟩
  · rw [← UInt32.toNat_inj, UInt32.toNat_ofNat']
    omega
  · rw [← UInt8.toNat_inj, UInt8.toNat_ofNat']
    omega
  · rw [← UInt8.toNat_inj, UInt8.toNat_ofNat']
    omega

/-- A header is a number of fourteen bits. -/
theorem toNat_lt (header : Header) : header.toNat < 16384 := by
  unfold toNat
  omega

end Header

namespace BatchPacket

/-- A packet as it arrives. -/
def arrived (packet : BatchPacket) (version : Version) : BatchPacket :=
  received packet.header (packet.outgoingBody version)

/-- Whether a packet has room in a batch: each field of its header in the bits that it has there,
and the whole of it within the buffer limit. -/
structure Fits (packet : BatchPacket) (version : Version) : Prop where
  id : packet.header.id.toNat < 1024
  sender : packet.header.sender.toNat < 4
  target : packet.header.target.toNat < 4
  short : (packet.encode version).length ≤ bufferLimit

end BatchPacket

namespace FrameCodec

variable {version : Version}

/-! ## Packets in a row -/

/-- A packet with its length in front takes at least a byte. -/
theorem lengthPrefixed_pos (packet : Bytes) : 0 < (Batch.lengthPrefixed packet).length := by
  have positive := Varint.size_pos (min packet.length (UInt32.size - 1))
  rw [Varint.size] at positive
  rw [Batch.lengthPrefixed, List.length_append]
  omega

/-- A length within the buffer limit is read off whatever follows it. -/
theorem read_length {length : Nat} (short : length ≤ bufferLimit) (rest : Bytes) :
    Varint.read32 (Varint.encode length ++ rest) = .ok (UInt32.ofNat length) rest := by
  have small : length < Nat.pow 128 5 := Nat.lt_of_le_of_lt short (by decide)
  exact Varint.takes_read32.reads (Varint.encode_form 4 small rfl) rest

/-- A header whose fields fit into their bits is read back. -/
theorem read_header {header : Header} (same : Header.ofNat header.toNat = header) (rest : Bytes) :
    Header.read (header.encode ++ rest) = .ok header rest := by
  have small : header.toNat % UInt32.size = header.toNat :=
    Nat.mod_eq_of_lt (Nat.lt_trans header.toNat_lt (by decide))
  apply Header.takes_read.reads
  refine ⟨Varint.encode_isSpelled _, Varint.size_le ?_, ?_⟩
  · exact Nat.lt_trans header.toNat_lt (by decide)
  · rw [Header.encode, Varint.number_encode, small, same]

/-- A packet that fits is split off as it arrives, whatever follows it. -/
theorem splitOnto_lengthPrefixed {read : List BatchPacket} {fuel : Nat} {packet : BatchPacket}
    {rest : Bytes} (fits : packet.Fits version) :
    splitOnto read (fuel + 1) (Batch.lengthPrefixed (packet.encode version) ++ rest) =
      splitOnto (packet.arrived version :: read) fuel rest := by
  obtain ⟨id, sender, target, short⟩ := fits
  let bytes := packet.encode version
  have within : min bytes.length (UInt32.size - 1) = bytes.length :=
    Nat.min_eq_left (Nat.le_trans short (by decide))
  have length : (UInt32.ofNat bytes.length).toNat = bytes.length := by
    rw [UInt32.toNat_ofNat']
    exact Nat.mod_eq_of_lt (Nat.lt_of_le_of_lt short (by decide))
  have counted : Varint.read32 (Varint.encode bytes.length ++ (bytes ++ rest)) =
      .ok (UInt32.ofNat bytes.length) (bytes ++ rest) := read_length short _
  have cut : Reader.take bytes.length (bytes ++ rest) = .ok bytes rest :=
    Reader.takes_take.reads ⟨rfl, rfl⟩ rest
  have headed : Header.read bytes = .ok packet.header (packet.outgoingBody version) :=
    read_header (Header.ofNat_toNat id sender target) _
  have body : bytes.drop (Varint.size packet.header.toNat) = packet.outgoingBody version :=
    List.drop_left
  have whole : Batch.lengthPrefixed bytes ++ rest =
      Varint.encode bytes.length ++ (bytes ++ rest) := by
    rw [Batch.lengthPrefixed, within, List.append_assoc]
  have positive := lengthPrefixed_pos bytes
  change splitOnto read (fuel + 1) (Batch.lengthPrefixed bytes ++ rest) = _
  rw [whole]
  cases input : Varint.encode bytes.length ++ (bytes ++ rest) with
  | nil =>
    rw [← whole, List.append_eq_nil_iff] at input
    rw [input.1] at positive
    cases positive
  | cons first others =>
    rw [input] at counted
    have room : ¬bufferLimit < bytes.length := Nat.not_lt.mpr short
    simp only [splitOnto, counted, length, room, if_false, cut, headed, body]
    rfl

/-- Packets that fit are split off as they arrive. -/
theorem splitOnto_encodePackets {read packets : List BatchPacket} {fuel : Nat}
    (fits : ∀ packet ∈ packets, packet.Fits version)
    (enough : (Batch.encodePackets packets version).length ≤ fuel) :
    splitOnto read fuel (Batch.encodePackets packets version) =
      .ok (read.reverse ++ packets.map fun packet => packet.arrived version) := by
  induction packets generalizing read fuel with
  | nil =>
    change splitOnto read fuel [] = _
    rw [splitOnto.eq_def]
    simp
  | cons packet packets ih =>
    have row : Batch.encodePackets (packet :: packets) version =
        Batch.lengthPrefixed (packet.encode version) ++ Batch.encodePackets packets version := rfl
    have positive := lengthPrefixed_pos (packet.encode version)
    obtain ⟨first, others⟩ := List.forall_mem_cons.mp fits
    rw [row, List.length_append] at enough
    obtain ⟨fuel, rfl⟩ : ∃ left, fuel = left + 1 := ⟨fuel - 1, by omega⟩
    rw [row, splitOnto_lengthPrefixed first, ih others (by omega), List.reverse_cons,
      List.append_assoc, List.map_cons]
    rfl

/-- The packets of a batch are split again as they were put together. -/
theorem split_encodePackets {packets : List BatchPacket}
    (fits : ∀ packet ∈ packets, packet.Fits version) :
    split (Batch.encodePackets packets version) =
      .ok (packets.map fun packet => packet.arrived version) :=
  splitOnto_encodePackets fits (Nat.le_refl _)

/-! ## Ends in step -/

/-- Whether one end has received as much as another has sent, and both read and write alike. -/
structure InStep (sender receiver : FrameCodec) : Prop where
  strategy : receiver.strategy = sender.strategy
  encryption : sender.encryption = none ∧ receiver.encryption = none ∨
    ∃ sending receiving, sender.encryption = some sending ∧
      receiver.encryption = some receiving ∧ receiving.Follows sending

/-- A frame is opened as its payload is, and leaves both ends in step. -/
theorem InStep.decode_enclose {sender receiver : FrameCodec} (inStep : sender.InStep receiver)
    (payload : Payload) :
    (receiver.decode (sender.enclose payload).1).1 = (open? sender.strategy
        (sender.strategy.withTag payload.algorithm payload.compressed)).1 ∧
      (sender.enclose payload).2.InStep (receiver.decode (sender.enclose payload).1).2.1 ∧
      (sender.enclose payload).2.version = sender.version := by
  obtain ⟨version, _, encryption⟩ := sender
  obtain ⟨other, strategy, _⟩ := receiver
  obtain ⟨rfl, ⟨rfl, rfl⟩ | ⟨sending, receiving, rfl, rfl, follows⟩⟩ := inStep
  · exact ⟨rfl, ⟨rfl, .inl ⟨rfl, rfl⟩⟩, rfl⟩
  · let tagged := strategy.withTag payload.algorithm payload.compressed
    obtain ⟨opened, again⟩ := follows.opens tagged
    have decoded : (⟨other, strategy, some receiving⟩ : FrameCodec).decode
        (marker :: (sending.encrypt tagged).1) = ((open? strategy tagged).1,
          ⟨other, strategy, some (receiving.decrypt (sending.encrypt tagged).1).2⟩,
          (open? strategy tagged).2) := by
      simp only [decode, stripMarker, if_true, FrameCodec.decrypt, opened]
    have enclosed : (⟨version, strategy, some sending⟩ : FrameCodec).enclose payload =
        (marker :: (sending.encrypt tagged).1,
          ⟨version, strategy, some (sending.encrypt tagged).2⟩) := rfl
    rw [enclosed]
    dsimp only
    rw [decoded]
    exact ⟨rfl, ⟨rfl, .inr ⟨_, _, rfl, rfl, again⟩⟩, rfl⟩

end FrameCodec

/-! ## Batches that get across -/

namespace Batch

variable {version : Version} {batch : Batch}

/-- Whether a batch gets across: what it is written as is within the buffer limit and is split into
its packets, and its compressed bytes, where they would be sent, expand to what it is written as. -/
structure GetsAcross (batch : Batch) (version : Version) : Prop where
  short : (batch.serialize version).length ≤ bufferLimit
  parts : FrameCodec.split (batch.serialize version) =
    .ok (batch.packets.map fun packet => packet.arrived version)
  backed : batch.modified = false → ∀ compressed, batch.compressed = some compressed →
    FrameCodec.expand batch.algorithm compressed = .ok (batch.serialize version)

/-- A batch without bytes of its own is written from its packets. -/
theorem getsAcross_of_written (written : batch.modified = true ∨
      batch.compressed = none ∧ batch.uncompressed = none)
    (fits : ∀ packet ∈ batch.packets, packet.Fits version)
    (short : (encodePackets batch.packets version).length ≤ bufferLimit) :
    batch.GetsAcross version := by
  have serialized : batch.serialize version = encodePackets batch.packets version := by
    unfold serialize
    rcases written with modified | ⟨-, bare⟩
    · rw [modified]
    · rw [bare]
      cases batch.modified <;> rfl
  refine ⟨?_, ?_, ?_⟩
  · rwa [serialized]
  · rw [serialized]
    exact FrameCodec.split_encodePackets fits
  · intro untouched compressed kept
    rcases written with modified | ⟨bare, -⟩
    · rw [modified] at untouched
      cases untouched
    · rw [bare] at kept
      cases kept

/-- A batch in the bytes it came in is written as them. -/
theorem getsAcross_of_opened {algorithm : Algorithm} {compressed uncompressed : Bytes}
    {original packets : List BatchPacket} {skipQueue : Bool}
    (expanded : FrameCodec.expand algorithm compressed = .ok uncompressed)
    (parted : FrameCodec.split uncompressed = .ok original)
    (same : packets.map (fun packet => packet.arrived version) = original)
    (short : uncompressed.length ≤ bufferLimit) :
    GetsAcross ⟨packets, some compressed, some uncompressed, algorithm, false, skipQueue⟩
      version where
  short := short
  parts := by
    rw [same]
    exact parted
  backed := by
    intro _ bytes kept
    cases kept
    exact expanded

/-- The batches that an end sends: its own and modified ones, whose packets fit, and those
that some end has received and nobody has touched, apart from decoding packets. -/
inductive Sendable (version : Version) : Batch → Prop
  | written {batch : Batch} (anew : batch.modified = true ∨
        batch.compressed = none ∧ batch.uncompressed = none)
      (fits : ∀ packet ∈ batch.packets, packet.Fits version)
      (short : (encodePackets batch.packets version).length ≤ bufferLimit) : Sendable version batch
  | untouched {codec : FrameCodec} {frame : Bytes} {original : Batch}
      {packets : List BatchPacket} (skipQueue : Bool)
      (decoded : (codec.decode frame).1 = .ok original)
      (same : packets.map (fun packet => packet.arrived version) = original.packets)
      (short : (original.serialize version).length ≤ bufferLimit) :
      Sendable version { original with packets := packets, skipQueue := skipQueue }

/-- What can be sent gets across. -/
theorem Sendable.getsAcross (sendable : Sendable version batch) : batch.GetsAcross version := by
  cases sendable with
  | written anew fits short => exact getsAcross_of_written anew fits short
  | untouched skipQueue decoded same short =>
    obtain ⟨payload, opened⟩ := FrameCodec.decode_opens decoded
    obtain ⟨algorithm, compressed, uncompressed, original, -, -, expanded, parted, rfl⟩ :=
      FrameCodec.open_eq_ok_iff.mp opened
    exact getsAcross_of_opened expanded parted same short

end Batch

namespace Strategy

/-- What is chosen for a batch is accepted. -/
theorem accepts_choose (strategy : Strategy) (length : Nat) :
    strategy.accepts (strategy.choose length) = true := by
  cases strategy <;> simp [accepts, choose]

end Strategy

namespace FrameCodec

variable {compressor : Compressor}

/-- A batch that was not touched goes out in the bytes it came in, if their algorithm is
accepted. -/
theorem payload_reused {codec : FrameCodec} {batch : Batch} {compressed : Bytes}
    (untouched : batch.modified = false) (kept : batch.compressed = some compressed)
    (accepted : codec.strategy.accepts batch.algorithm = true) :
    (codec.payload batch compressor).1 = ⟨batch.algorithm, compressed, true⟩ := by
  simp [payload, untouched, kept, accepted]

/-- Any other batch is compressed as the strategy chooses. -/
theorem payload_anew {codec : FrameCodec} {batch : Batch}
    (other : ∀ compressed, batch.modified = false → batch.compressed = some compressed →
      codec.strategy.accepts batch.algorithm = false) :
    (codec.payload batch compressor).1 =
      ⟨codec.strategy.choose (batch.serialize codec.version).length,
        (codec.strategy.choose (batch.serialize codec.version).length).compress
          (batch.serialize codec.version) compressor, false⟩ := by
  unfold payload
  cases kept : batch.compressed with
  | none => rfl
  | some compressed =>
    have anew : (!batch.modified && codec.strategy.accepts batch.algorithm) = false := by
      cases untouched : batch.modified with
      | true => rfl
      | false => rw [other compressed untouched kept]; rfl
    simp only [anew, Bool.false_eq_true, if_false]

/-- What a reliable compressor makes of a batch expands to it. -/
theorem expand_compress {algorithm : Algorithm} {content : Bytes}
    (reliable : compressor.RoundTrips) (short : content.length ≤ bufferLimit) :
    expand algorithm (algorithm.compress content compressor) = .ok content := by
  cases algorithm with
  | none => rfl
  | zlib => exact reliable .zlib content short
  | snappy => exact reliable .snappy content short

/-- The compressed form in which a batch goes out is one that the strategy accepts, and expands to
what the batch is written as. -/
theorem payload_expands {codec : FrameCodec} {batch : Batch} (reliable : compressor.RoundTrips)
    (across : batch.GetsAcross codec.version) :
    codec.strategy.accepts (codec.payload batch compressor).1.algorithm = true ∧
      expand (codec.payload batch compressor).1.algorithm
        (codec.payload batch compressor).1.compressed = .ok (batch.serialize codec.version) := by
  by_cases reused : ∃ compressed, batch.modified = false ∧ batch.compressed = some compressed ∧
      codec.strategy.accepts batch.algorithm = true
  · obtain ⟨compressed, untouched, kept, accepted⟩ := reused
    rw [payload_reused untouched kept accepted]
    exact ⟨accepted, across.backed untouched compressed kept⟩
  · have anew : ∀ compressed, batch.modified = false → batch.compressed = some compressed →
        codec.strategy.accepts batch.algorithm = false := by
      intro compressed untouched kept
      by_contra accepted
      exact reused ⟨compressed, untouched, kept, by simpa using accepted⟩
    rw [payload_anew anew]
    exact ⟨Strategy.accepts_choose _ _, expand_compress reliable across.short⟩

/-- A batch that gets across is opened with its packets as they arrive, and leaves both ends in
step. -/
theorem InStep.decode_encode {sender receiver : FrameCodec} {batch : Batch}
    (inStep : sender.InStep receiver) (reliable : compressor.RoundTrips)
    (across : batch.GetsAcross sender.version) :
    (∃ found, (receiver.decode (sender.encode batch compressor).1).1 = .ok found ∧
        found.packets = batch.packets.map (fun packet => packet.arrived sender.version) ∧
        found.uncompressed = some (batch.serialize sender.version)) ∧
      (sender.encode batch compressor).2.1.InStep
        (receiver.decode (sender.encode batch compressor).1).2.1 ∧
      (sender.encode batch compressor).2.1.version = sender.version := by
  obtain ⟨accepted, expanded⟩ := payload_expands reliable across
  obtain ⟨opened, again, kept⟩ := inStep.decode_enclose (sender.payload batch compressor).1
  have found := open_eq_ok_iff.mpr ⟨_, _, _, _, accepted, rfl, expanded, across.parts, rfl⟩
  exact ⟨⟨_, opened.trans found, rfl, rfl⟩, again, kept⟩

/-! ## Whole runs -/

/-- Writes batches as frames, one after another. -/
def encodeAll (compressor : Compressor) : FrameCodec → List Batch → List Bytes × FrameCodec
  | codec, [] => ([], codec)
  | codec, batch :: batches =>
    let (frame, codec, _) := codec.encode batch compressor
    let (frames, codec) := encodeAll compressor codec batches
    (frame :: frames, codec)

/-- Opens frames one after another. -/
def decodeAll : FrameCodec → List Bytes → List (Except FrameError Batch) × FrameCodec
  | codec, [] => ([], codec)
  | codec, frame :: frames =>
    let (opened, codec, _) := codec.decode frame
    let (others, codec) := decodeAll codec frames
    (opened :: others, codec)

/-- Between two ends in step, every batch of a run arrives: each frame is accepted, with the packets
of its batch in their order, each with its header and its body. Both ends are in step again
after it. -/
theorem conveys_run (compressor : Compressor) (reliable : compressor.RoundTrips)
    (sender receiver : FrameCodec) (inStep : sender.InStep receiver) (batches : List Batch)
    (sendable : ∀ batch ∈ batches, Batch.Sendable sender.version batch) :
    List.Forall₂ (fun batch opened => ∃ found, opened = .ok found ∧
        found.packets = batch.packets.map (fun packet => packet.arrived sender.version))
      batches (decodeAll receiver (encodeAll compressor sender batches).1).1 ∧
    (encodeAll compressor sender batches).2.InStep
      (decodeAll receiver (encodeAll compressor sender batches).1).2 := by
  induction batches generalizing sender receiver with
  | nil => exact ⟨.nil, inStep⟩
  | cons batch batches ih =>
    obtain ⟨first, others⟩ := List.forall_mem_cons.mp sendable
    obtain ⟨⟨found, opened, packets, -⟩, again, kept⟩ :=
      inStep.decode_encode reliable first.getsAcross
    rw [← kept] at others
    obtain ⟨arrive, after⟩ := ih _ _ again others
    rw [kept] at arrive
    exact ⟨.cons ⟨found, opened, packets⟩ arrive, after⟩

/-- A frame of one packet, of a player with the id 9 who has arrived, in a snappy literal. -/
def literalFrame : Bytes := [marker, 3, 8, 2, 113, 9]

/-- The batch in the frame. -/
def literalBatch : Batch :=
  ⟨[.received (.ofId PacketId.setLocalPlayerAsInitialized) [9]], some [3, 8, 2, 113, 9],
    some [2, 113, 9], .snappy, false, false⟩

/-- A sealed run of a batch of one's own and of one that came in under another strategy. -/
theorem conveys_run_sealed :
    let sender : FrameCodec := ⟨.v712, .tagged .zlib 1, some (.start (List.replicate 32 7) false)⟩
    let receiver : FrameCodec := ⟨.v712, .tagged .zlib 1, some (.start (List.replicate 32 7) true)⟩
    let other : FrameCodec := ⟨.v712, .fixed .snappy, none⟩
    let own : Batch := .made [.removeEntity ⟨1⟩]
    (other.decode literalFrame).1 = .ok literalBatch ∧
      List.Forall₂ (fun batch opened => ∃ found, opened = .ok found ∧
          found.packets = batch.packets.map (fun packet => packet.arrived .v712))
        [own, literalBatch]
        (decodeAll receiver (encodeAll .plain sender [own, literalBatch]).1).1 := by
  intro sender receiver other own
  have passed : (other.decode literalFrame).1 = .ok literalBatch := by decide +kernel
  have fits : ∀ packet ∈ own.packets, packet.Fits .v712 := by
    intro packet mem
    obtain rfl := List.mem_singleton.mp mem
    exact ⟨by decide, by decide, by decide, by decide +kernel⟩
  refine ⟨passed, ?_⟩
  apply (conveys_run .plain Compressor.plain_roundTrips sender receiver ⟨rfl, .inr ⟨_, _, rfl, rfl,
    Encryption.start_follows rfl⟩⟩ _ _).1
  rw [List.forall_mem_cons, List.forall_mem_singleton]
  constructor
  · exact .written (.inl rfl) fits (by decide +kernel)
  · exact .untouched false passed rfl (by decide)

end FrameCodec

end Ferry
