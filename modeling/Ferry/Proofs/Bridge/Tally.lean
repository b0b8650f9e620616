import Ferry.Proofs.Bridge.Crossing
import Ferry.Proofs.Mapping.ChangeReport

/-!
# What a report of bridging says

Bridging a batch keeps some of its packets, in their order, and takes the others out. The report
counts them, and whether a kept packet counts as modified is all that decides whether it is
written anew. A packet that is not written anew, and has been read all the same, reads as what is
on the wire: whatever was changed in it would have been reported.
-/

namespace Ferry

/-- Whether what a packet reads as is what is written of it, unless it is written anew. -/
def BatchPacket.IsFaithful (packet : BatchPacket) (version : Version) : Prop :=
  packet.dirty = false → ∀ value, packet.decoded = some value →
    Packet.decode version packet.header.id packet.body = .ok value

/-- The handlers of a session. -/
inductive Handler.IsOfSession : {σ : Type} → Handler σ → Prop
  | client : IsOfSession Handler.client
  | backend (server : Server) : IsOfSession (Handler.backend server)
  | arrival : IsOfSession Handler.arrival

/-- No handler of a session changes a packet. -/
theorem Handler.IsOfSession.unchanged {σ : Type} {handler : Handler σ}
    (known : handler.IsOfSession) (state : σ) (player : Player) (value : Packet) :
    (handler.handle state player value).packet = value := by
  cases known with
  | client => exact Handler.client_unchanged player value
  | backend server => exact Handler.backend_unchanged server player value
  | arrival => exact Handler.arrival_unchanged state player value

namespace Bridge

/-- How packets fall into those that are kept, each with its header and its body, and those
that are taken out. -/
inductive Parted : (packets kept removed : List BatchPacket) → Prop
  | none : Parted [] [] []
  | keep {packets kept removed : List BatchPacket} {packet after : BatchPacket}
      (earlier : Parted packets kept removed) (header : after.header = packet.header)
      (body : after.body = packet.body) :
      Parted (packets ++ [packet]) (kept ++ [after]) removed
  | remove {packets kept removed : List BatchPacket} {packet : BatchPacket}
      (earlier : Parted packets kept removed) :
      Parted (packets ++ [packet]) kept (removed ++ [packet])

/-- What a report says of the packets that were kept and of those that were taken out. -/
structure Tallies (report : BridgeReport) (kept removed : List BatchPacket) : Prop where
  modified : report.modified = kept.countP fun packet => packet.dirty
  forwarded : report.forwarded = kept.countP fun packet => !packet.dirty
  canceled : report.canceled = removed.length
  canceledBytes : report.canceledBytes =
    removed.foldl (fun total packet => total + packet.body.length) 0
  failed : report.failed ≤ report.canceled

/-- As many packets are kept and taken out as there were. -/
theorem Parted.length {packets kept removed : List BatchPacket}
    (parted : Parted packets kept removed) :
    packets.length = kept.length + removed.length := by
  induction parted with
  | none => rfl
  | keep _ _ _ ih =>
    simp only [List.length_append, List.length_singleton]
    omega
  | remove _ ih =>
    simp only [List.length_append, List.length_singleton]
    omega

namespace Tallies

variable {report : BridgeReport} {kept removed : List BatchPacket}

/-- Before the first packet nothing is reported. -/
theorem zero : Tallies BridgeReport.zero [] [] where
  modified := rfl
  forwarded := rfl
  canceled := rfl
  canceledBytes := rfl
  failed := Nat.le_refl _

/-- A packet that is kept is reported as kept. -/
theorem keep (tallies : Tallies report kept removed) (packet : BatchPacket) :
    Tallies (report.keep packet) (kept ++ [packet]) removed := by
  obtain ⟨modified, forwarded, canceled, canceledBytes, failed⟩ := tallies
  cases dirty : packet.dirty with
  | true => constructor <;> simp_all [BridgeReport.keep]
  | false => constructor <;> simp_all [BridgeReport.keep]

/-- A packet that is taken out is reported as dropped, with its bytes. -/
theorem drop (tallies : Tallies report kept removed) (packet : BatchPacket) (failure : Bool) :
    Tallies (report.drop packet failure) kept (removed ++ [packet]) := by
  obtain ⟨modified, forwarded, canceled, canceledBytes, failed⟩ := tallies
  refine ⟨modified, forwarded, ?_, ?_, ?_⟩
  · simp [BridgeReport.drop, canceled]
  · simp [BridgeReport.drop, canceledBytes]
  · cases failure with
    | true => simpa [BridgeReport.drop] using failed
    | false => simpa [BridgeReport.drop] using Nat.le_succ_of_le failed

/-- Every packet is counted, and counted once. -/
theorem total {packets : List BatchPacket} (tallies : Tallies report kept removed)
    (parted : Parted packets kept removed) :
    report.forwarded + report.modified + report.canceled = packets.length := by
  have all : kept.length = (kept.countP fun packet => packet.dirty) +
      kept.countP fun packet => !packet.dirty := by
    rw [List.length_eq_countP_add_countP fun packet : BatchPacket => packet.dirty]
    simp
  rw [tallies.forwarded, tallies.modified, tallies.canceled, parted.length, all]
  omega

end Tallies

section Fates

variable {σ : Type} {handler : Handler σ} {direction : Direction} {version : Version}

/-- What one packet does to what has been kept and to the report. -/
inductive Counts (packet : BatchPacket) (before after : Crossing σ) : Prop
  | kept {passed : BatchPacket} (packets : after.packets = before.packets ++ [passed])
      (report : after.report = before.report.keep passed)
      (header : passed.header = packet.header) (body : passed.body = packet.body)
  | removed (failure : Bool) (packets : after.packets = before.packets)
      (report : after.report = before.report.drop packet failure)

/-- Crossing counts a packet in one of these ways. -/
theorem cross_counts (crossing : Crossing σ) (packet : BatchPacket) :
    Counts packet crossing (cross handler direction version crossing packet) := by
  unfold cross
  dsimp only
  split
  · split
    · exact .removed true rfl rfl
    · split
      · exact .removed false rfl rfl
      · exact .removed true rfl rfl
      · exact .kept rfl rfl rfl rfl
  · exact .kept rfl rfl rfl rfl

/-- Whether the packets that have crossed so far are accounted for. -/
def Balanced (packets : List BatchPacket) (crossing : Crossing σ) : Prop :=
  ∃ removed, Parted packets crossing.packets removed ∧
    Tallies crossing.report crossing.packets removed

/-- A packet more is accounted for with the others. -/
theorem Balanced.counts {packets : List BatchPacket} {packet : BatchPacket}
    {before after : Crossing σ} (balanced : Balanced packets before)
    (counts : Counts packet before after) : Balanced (packets ++ [packet]) after := by
  obtain ⟨removed, parted, tallies⟩ := balanced
  cases counts with
  | @kept passed packets report header body =>
    refine ⟨removed, ?_, ?_⟩
    · rw [packets]
      exact parted.keep header body
    · rw [packets, report]
      exact tallies.keep passed
  | removed failure packets report =>
    refine ⟨removed ++ [packet], ?_, ?_⟩
    · rw [packets]
      exact parted.remove
    · rw [packets, report]
      exact tallies.drop packet failure

/-- What one packet keeps in balance, packets in a row do. -/
theorem Balanced.run {packets earlier : List BatchPacket} {crossing : Crossing σ}
    (balanced : Balanced earlier crossing) : Balanced (earlier ++ packets)
      (packets.foldl (cross handler direction version) crossing) := by
  induction packets generalizing earlier crossing with
  | nil => rwa [List.append_nil]
  | cons packet packets ih =>
    rw [List.append_cons]
    exact ih (balanced.counts (cross_counts crossing packet))

end Fates

section Batches

variable {σ : Type} {handler : Handler σ} {direction : Direction} {version : Version}
  {state : σ} {player : Player} {batch : Batch}

/-- The packets of a batch part into those that are kept and those that are taken out, and the
report tallies, whatever the handler does. -/
theorem process_parts (handler : Handler σ) (direction : Direction) (version : Version)
    (state : σ) (player : Player) (batch : Batch) :
    ∃ removed,
      Parted batch.packets (process handler direction version state player batch).batch.packets
        removed ∧
      Tallies (process handler direction version state player batch).report
        (process handler direction version state player batch).batch.packets removed := by
  have start : Balanced [] (⟨state, player, [], BridgeReport.zero, []⟩ : Crossing σ) :=
    ⟨[], .none, .zero⟩
  rw [process_packets]
  exact start.run

/-- A batch of which nothing was modified or canceled keeps the bytes it came in. -/
theorem process_batch_of_passThrough
    (passed : (process handler direction version state player batch).report.isPassThrough = true) :
    (process handler direction version state player batch).batch = { batch with
      packets := (process handler direction version state player batch).batch.packets } := by
  rw [process_packets]
  unfold process at passed ⊢
  dsimp only at passed ⊢
  rw [if_pos passed]

/-- Any other batch gives them up. -/
theorem process_batch_of_changed
    (changed : (process handler direction version state player batch).report.isPassThrough =
      false) :
    (process handler direction version state player batch).batch.modified = true ∧
      (process handler direction version state player batch).batch.compressed = none ∧
      (process handler direction version state player batch).batch.uncompressed = none := by
  unfold process at changed ⊢
  dsimp only at changed ⊢
  rw [changed]
  exact ⟨rfl, rfl, rfl⟩

/-- What is passed on is faithful if it was received and the handler did not change it. -/
theorem passOn_faithful {packet : BatchPacket} {value : Packet} {handled : Handled σ}
    (received : packet.decoded = none) (decoded : packet.decode version = .ok value)
    (unchanged : handled.packet = value) :
    (passOn direction packet handled).1.IsFaithful version := by
  intro clean read found
  have silent : handled.player.mapping.concerns direction packet.header.id = true →
      handled.player.mapping.changes direction handled.packet = false := by
    intro concerned
    simp only [passOn, concerned, Bool.true_and, Bool.or_eq_false_iff] at clean
    exact clean.2.2
  have same : read = value := by
    simp only [passOn, Option.some.injEq] at found
    rw [← found, ← unchanged]
    split
    next concerned => exact Mapping.packet_unchanged (silent concerned)
    next => rfl
  rw [same]
  unfold BatchPacket.decode at decoded
  rw [received] at decoded
  exact decoded

/-- Received packets that are kept are faithful, if the handler changes none. -/
theorem process_faithful
    (unchanged : ∀ state player value, (handler.handle state player value).packet = value)
    (received : ∀ packet ∈ batch.packets, packet.decoded = none) :
    ∀ packet ∈ (process handler direction version state player batch).batch.packets,
      packet.IsFaithful version := by
  refine process_all (fun packet => packet.IsFaithful version) unchanged ?_ ?_
  · intro packet mem _ value read
    rw [received packet mem] at read
    cases read
  · exact fun packet mem value handled decoded kept =>
      passOn_faithful (received packet mem) decoded kept

end Batches

/-- The report of a batch of received packets, bridged by a handler of a session. Some packets are
kept, in their order, and the others are taken out; each is counted once. The batch gives up
the bytes it came in exactly where something was modified or canceled. What a kept packet reads as
is what is written of it, unless it is written anew. -/
theorem process_tallies {σ : Type} (handler : Handler σ) (known : handler.IsOfSession)
    (direction : Direction) (version : Version) (state : σ) (player : Player) (batch : Batch)
    (received : ∀ packet ∈ batch.packets, packet.decoded = none) :
    let result := process handler direction version state player batch
    let report := result.report
    (∃ removed, Parted batch.packets result.batch.packets removed ∧
      Tallies report result.batch.packets removed) ∧
    report.forwarded + report.modified + report.canceled = batch.packets.length ∧
    (report.modified = 0 ∧ report.canceled = 0 →
      result.batch = { batch with packets := result.batch.packets }) ∧
    (0 < report.modified ∨ 0 < report.canceled → result.batch.modified = true ∧
      result.batch.compressed = none ∧ result.batch.uncompressed = none) ∧
    ∀ packet ∈ result.batch.packets, packet.IsFaithful version := by
  intro result report
  obtain ⟨removed, parted, tallies⟩ := process_parts handler direction version state player batch
  refine ⟨⟨removed, parted, tallies⟩, tallies.total parted, ?_, ?_, ?_⟩
  · rintro ⟨unmodified, uncanceled⟩
    apply process_batch_of_passThrough
    change report.isPassThrough = true
    simp [BridgeReport.isPassThrough, unmodified, uncanceled]
  · intro changed
    apply process_batch_of_changed
    change report.isPassThrough = false
    simp only [BridgeReport.isPassThrough, Bool.and_eq_false_iff, decide_eq_false_iff_not]
    omega
  · exact process_faithful known.unchanged received

/-- A player whose client knows itself by the id 1, and whose backend knows it by 5. -/
def renamedPlayer : Player :=
  { Player.start (some ⟨1, 1⟩) with
    mapping := { Mapping.start (some ⟨1, 1⟩) with backend := ⟨5, 5⟩ } }

/-- Three packets of such a client: one of its own id, one of somebody else's, and one that cannot
be read. -/
theorem process_tallies_initialized :
    let header := Header.ofId PacketId.setLocalPlayerAsInitialized
    let batch : Batch := ⟨[.received header [1], .received header [9], .received header [0x80]],
      none, some [2, 113, 1, 2, 113, 9, 2, 113, 0x80], .none, false, false⟩
    let result := process Handler.client .serverbound .v712 () renamedPlayer batch
    result.report = ⟨1, 1, 1, 1, 1⟩ ∧ result.batch.uncompressed = none ∧
      ∀ packet ∈ result.batch.packets, packet.IsFaithful .v712 := by
  intro header batch result
  have received : ∀ packet ∈ batch.packets, packet.decoded = none := by decide
  have report : result.report = ⟨1, 1, 1, 1, 1⟩ := by decide +kernel
  obtain ⟨-, -, -, changed, faithful⟩ := process_tallies Handler.client .client .serverbound .v712
    () renamedPlayer batch received
  have modified : 0 < result.report.modified := by
    rw [report]
    decide
  exact ⟨report, (changed (.inl modified)).2.2, faithful⟩

end Bridge

end Ferry
