import Ferry.Proofs.Frame.Delivery
import Ferry.Proofs.Bridge.Tally

/-!
# Batches that pass through

A batch of which nothing is modified or canceled goes on with all its packets, some of them read
perhaps, and in the bytes it came in. Where these can be sent, the frame is the one that came in;
anywhere else the batch is compressed anew, and what arrives is the same uncompressed bytes.
-/

namespace Ferry

namespace Bridge

variable {version : Version}

/-- Packets that are kept all and written as they came arrive as they came. -/
theorem Parted.arrive {packets kept removed : List BatchPacket}
    (parted : Parted packets kept removed) (nothing : removed = [])
    (clean : ∀ packet ∈ kept, packet.dirty = false)
    (received : ∀ packet ∈ packets, packet = .received packet.header packet.body) :
    kept.map (fun packet => packet.arrived version) = packets := by
  induction parted with
  | none => rfl
  | @keep packets kept removed packet after earlier header body ih =>
    obtain ⟨others, last⟩ := List.forall_mem_append.mp clean
    obtain ⟨came, lastCame⟩ := List.forall_mem_append.mp received
    have written : after.arrived version = packet := by
      have spared := last after (List.mem_singleton_self after)
      rw [lastCame packet (List.mem_singleton_self packet), BatchPacket.arrived, header]
      unfold BatchPacket.outgoingBody
      rw [spared, ← body]
      cases after.decoded <;> rfl
    rw [List.map_append, ih nothing others came, List.map_singleton, written]
  | remove => simp at nothing

/-- The packets of a batch that passes through arrive as they came. -/
theorem process_arrive (version : Version) {σ : Type} {handler : Handler σ}
    {direction : Direction} {reader : Version} {state : σ} {player : Player} {batch : Batch}
    (passed : (process handler direction reader state player batch).report.isPassThrough = true)
    (received : ∀ packet ∈ batch.packets, packet = .received packet.header packet.body) :
    (process handler direction reader state player batch).batch.packets.map
      (fun packet => packet.arrived version) = batch.packets := by
  obtain ⟨removed, parted, tallies⟩ := process_parts handler direction reader state player batch
  simp only [BridgeReport.isPassThrough, Bool.and_eq_true, decide_eq_true_eq] at passed
  obtain ⟨unmodified, uncanceled⟩ := passed
  have nothing : removed = [] := by
    rw [tallies.canceled] at uncanceled
    exact List.length_eq_zero_iff.mp uncanceled
  have clean : ∀ packet ∈ (process handler direction reader state player batch).batch.packets,
      packet.dirty = false := by
    rw [tallies.modified, List.countP_eq_zero] at unmodified
    exact fun packet mem => Bool.eq_false_iff.mpr (unmodified packet mem)
  exact parted.arrive nothing clean received

end Bridge

namespace FrameCodec

/-- Without encryption, a frame that is accepted is its payload behind the marker. -/
theorem decode_plain {codec : FrameCodec} {frame : Bytes} {batch : Batch}
    (plain : codec.encryption = none) (decoded : (codec.decode frame).1 = .ok batch) :
    ∃ payload, frame = marker :: payload ∧ (open? codec.strategy payload).1 = .ok batch := by
  cases frame with
  | nil => cases decoded
  | cons first payload =>
    by_cases marked : first = marker
    · subst marked
      refine ⟨payload, rfl, ?_⟩
      simpa [decode, stripMarker, decrypt, plain] using decoded
    · simp [decode, stripMarker, marked] at decoded

/-- A batch in the bytes it came in is enclosed in the frame it came in. -/
theorem encode_reused {sender : FrameCodec} {batch : Batch} {compressed : Bytes}
    {compressor : Compressor} (plain : sender.encryption = none)
    (untouched : batch.modified = false) (kept : batch.compressed = some compressed)
    (accepted : sender.strategy.accepts batch.algorithm = true) :
    (sender.encode batch compressor).1 =
      marker :: sender.strategy.withTag batch.algorithm compressed := by
  change (sender.enclose (sender.payload batch compressor).1).1 = _
  rw [payload_reused untouched kept accepted]
  simp only [enclose, plain]

end FrameCodec

namespace Bridge

/-- A batch from a connection without encryption, of which bridging reports that nothing was
modified or canceled. On any such connection of the same strategy it goes out in the frame that it
came in. On any connection it arrives in the same uncompressed bytes, and with the same packets. -/
theorem process_passesThrough {σ : Type} (handler : Handler σ) (direction : Direction)
    (version : Version) (state : σ) (player : Player) (codec : FrameCodec)
    (plain : codec.encryption = none) (frame : Bytes) (batch : Batch)
    (decoded : (codec.decode frame).1 = .ok batch)
    (passed : (process handler direction version state player batch).report.isPassThrough = true)
    (compressor : Compressor) :
    let spared := (process handler direction version state player batch).batch
    (∀ sender : FrameCodec, sender.encryption = none → sender.strategy = codec.strategy →
      (sender.encode spared compressor).1 = frame) ∧
    (compressor.RoundTrips →
      (∀ uncompressed, batch.uncompressed = some uncompressed →
        uncompressed.length ≤ bufferLimit) →
      ∀ sender receiver : FrameCodec, sender.InStep receiver →
        ∃ found, (receiver.decode (sender.encode spared compressor).1).1 = .ok found ∧
          found.uncompressed = batch.uncompressed ∧ found.packets = batch.packets) := by
  intro spared
  obtain ⟨payload, rfl, opened⟩ := FrameCodec.decode_plain plain decoded
  obtain ⟨algorithm, compressed, uncompressed, packets, accepted, rfl, expanded, parted, rfl⟩ :=
    FrameCodec.open_eq_ok_iff.mp opened
  have same : spared = ⟨spared.packets, some compressed, some uncompressed, algorithm, false,
      false⟩ := process_batch_of_passThrough passed
  have algorithms : spared.algorithm = algorithm := congrArg Batch.algorithm same
  constructor
  · intro sender unsealed strategy
    rw [← strategy, ← algorithms] at accepted ⊢
    exact FrameCodec.encode_reused unsealed (congrArg Batch.modified same)
      (congrArg Batch.compressed same) accepted
  · intro reliable short sender receiver inStep
    have arrive := process_arrive sender.version passed
      (FrameCodec.received_of_split parted)
    have across : spared.GetsAcross sender.version := by
      rw [same]
      exact Batch.getsAcross_of_opened expanded parted arrive (short uncompressed rfl)
    obtain ⟨⟨found, opens, arrived, bytes⟩, -, -⟩ := inStep.decode_encode reliable across
    refine ⟨found, opens, ?_, arrived.trans arrive⟩
    rw [bytes, same]
    rfl

/-- A packet that is read passes through: it names an id that the mapping leaves alone. Where it
comes from, it goes out in the frame that it came in; elsewhere it arrives all the same. -/
theorem process_passesThrough_initialized :
    let codec : FrameCodec := ⟨.v712, .fixed .snappy, none⟩
    let other : FrameCodec := ⟨.v712, .fixed .zlib, none⟩
    let result := process Handler.client .serverbound .v712 () renamedPlayer
      FrameCodec.literalBatch
    (codec.decode FrameCodec.literalFrame).1 = .ok FrameCodec.literalBatch ∧
      result.report = ⟨1, 0, 0, 0, 0⟩ ∧ other.strategy.accepts result.batch.algorithm = false ∧
      (codec.encode result.batch).1 = FrameCodec.literalFrame ∧
      ∃ found, (other.decode (other.encode result.batch).1).1 = .ok found ∧
        found.uncompressed = FrameCodec.literalBatch.uncompressed ∧
        found.packets = FrameCodec.literalBatch.packets := by
  intro codec other result
  have decoded : (codec.decode FrameCodec.literalFrame).1 = .ok FrameCodec.literalBatch := by
    decide +kernel
  have report : result.report = ⟨1, 0, 0, 0, 0⟩ := by decide +kernel
  have passed : result.report.isPassThrough = true := by
    rw [report]
    rfl
  obtain ⟨again, anywhere⟩ := process_passesThrough Handler.client .serverbound .v712 ()
    renamedPlayer codec rfl FrameCodec.literalFrame FrameCodec.literalBatch decoded passed .plain
  refine ⟨decoded, report, by decide +kernel, again codec rfl rfl, ?_⟩
  apply anywhere Compressor.plain_roundTrips
  · intro uncompressed kept
    cases kept
    decide
  · exact ⟨rfl, .inl ⟨rfl, rfl⟩⟩

end Bridge

end Ferry
