import Ferry.Session.Peer

/-!
# What the far ends of links hear

`heardOn` is the stream of packets that arrives at the other end of a link. A peer that is
open lets a batch out behind what is queued in front of it, and one that is not lets nothing
out and fails. Writing changes nothing about a peer but its queue and its codec.
-/

namespace Ferry

/-- The packets that are written to some of the links, in order. -/
def heardOn (on : LinkId → Bool) (outputs : List Output) : List BatchPacket :=
  outputs.flatMap fun
    | .written link batch _ => if on link then batch.packets else []
    | _ => []

/-- Whether a link is the client's. -/
def LinkId.isClient (link : LinkId) : Bool := link = .client

/-- Whether a link leads to a backend. -/
def LinkId.isBackend (link : LinkId) : Bool := !link.isClient

/-- Whether an output is a frame, or something counted on the way to one. -/
def Output.isTraffic : Output → Bool
  | .written _ _ _ | .counted _ => true
  | _ => false

/-- Outputs that only carry packets: nobody is called, and nothing is reported. -/
def OnlyTraffic (outputs : List Output) : Prop := ∀ output ∈ outputs, output.isTraffic = true

/-- A packet that the proxy has made itself. -/
def BatchPacket.IsMade (packet : BatchPacket) : Prop := ∃ value, packet = BatchPacket.made value

/-- Packets that the proxy has made itself. -/
def AllMade (packets : List BatchPacket) : Prop := ∀ packet ∈ packets, packet.IsMade

/-- A stream in which some packets are passed on, in order and each once, amid packets that the
proxy has made itself. -/
inductive Amid : List BatchPacket → List BatchPacket → Prop
  | nil : Amid [] []
  | made {packet : BatchPacket} {passed stream : List BatchPacket} (own : packet.IsMade)
      (rest : Amid passed stream) : Amid passed (packet :: stream)
  | passed {packet : BatchPacket} {passed stream : List BatchPacket}
      (rest : Amid passed stream) : Amid (packet :: passed) (packet :: stream)

section Heard

variable {on : LinkId → Bool}

@[simp] theorem heardOn_nil : heardOn on [] = [] := rfl

/-- What is written later is heard later. -/
@[simp] theorem heardOn_append {first second : List Output} :
    heardOn on (first ++ second) = heardOn on first ++ heardOn on second :=
  List.flatMap_append

/-- The packets of a batch are heard on its link. -/
@[simp] theorem heardOn_written {link : LinkId} {batch : Batch} {frame : Bytes}
    {rest : List Output} : heardOn on (.written link batch frame :: rest) =
      (if on link then batch.packets else []) ++ heardOn on rest := rfl

/-- A call for a server is not heard. -/
@[simp] theorem heardOn_dialed {attempt : Nat} {server : Server} {rest : List Output} :
    heardOn on (.dialed attempt server :: rest) = heardOn on rest := rfl

/-- The search for another server is not heard. -/
@[simp] theorem heardOn_soughtFallback {lost : Server} {found : Option Server}
    {rest : List Output} :
    heardOn on (.soughtFallback lost found :: rest) = heardOn on rest := rfl

/-- To rebuild the packs is not heard. -/
@[simp] theorem heardOn_packsRebuilt {rest : List Output} :
    heardOn on (.packsRebuilt :: rest) = heardOn on rest := rfl

/-- That a transfer is complete is not heard. -/
@[simp] theorem heardOn_transferred {source target : Server} {rest : List Output} :
    heardOn on (.transferred source target :: rest) = heardOn on rest := rfl

/-- What is counted is not heard. -/
@[simp] theorem heardOn_counted {counted : List Observation} :
    heardOn on (counted.map Output.counted) = [] := by
  simp [heardOn, List.flatMap_map]

@[simp] theorem onlyTraffic_nil : OnlyTraffic [] := by simp [OnlyTraffic]

/-- Outputs that only carry packets do so one behind the other. -/
@[simp] theorem onlyTraffic_append {first second : List Output} :
    OnlyTraffic (first ++ second) ↔ OnlyTraffic first ∧ OnlyTraffic second :=
  List.forall_mem_append

/-- A batch that is written is traffic. -/
@[simp] theorem onlyTraffic_written {link : LinkId} {batch : Batch} {frame : Bytes}
    {rest : List Output} : OnlyTraffic (.written link batch frame :: rest) ↔ OnlyTraffic rest := by
  simp [OnlyTraffic, Output.isTraffic]

/-- What is counted is traffic. -/
@[simp] theorem onlyTraffic_counted {counted : List Observation} :
    OnlyTraffic (counted.map Output.counted) := by
  simp [OnlyTraffic, Output.isTraffic]

end Heard

section Made

@[simp] theorem allMade_nil : AllMade [] := by simp [AllMade]

/-- Packets of the proxy may stand behind others of it. -/
@[simp] theorem allMade_append {first second : List BatchPacket} :
    AllMade (first ++ second) ↔ AllMade first ∧ AllMade second :=
  List.forall_mem_append

/-- Packets that the proxy makes are made by it. -/
@[simp] theorem allMade_map_made {packets : List Packet} :
    AllMade (packets.map BatchPacket.made) := by
  simp only [AllMade, List.forall_mem_map]
  intro value _
  exact ⟨value, rfl⟩

/-- The packets of a batch that the proxy makes are made by it. -/
@[simp] theorem made_packets {packets : List Packet} :
    (Batch.made packets).packets = packets.map BatchPacket.made := rfl

/-- A batch that the proxy makes waits its turn. -/
@[simp] theorem made_skipQueue {packets : List Packet} :
    (Batch.made packets).skipQueue = false := rfl

/-- A batch of packets has these packets. -/
@[simp] theorem ofPackets_packets {packets : List BatchPacket} :
    (Batch.ofPackets packets).packets = packets := rfl

/-- A batch of packets waits its turn. -/
@[simp] theorem ofPackets_skipQueue {packets : List BatchPacket} :
    (Batch.ofPackets packets).skipQueue = false := rfl

/-- Two streams stand amid what the proxy has made, one behind the other. -/
theorem Amid.append {first second stream tail : List BatchPacket} (here : Amid first stream)
    (there : Amid second tail) : Amid (first ++ second) (stream ++ tail) := by
  induction here with
  | nil => exact there
  | made own _ ih => exact .made own ih
  | passed _ ih => exact .passed ih

/-- A stream may be passed on without anything else. -/
theorem Amid.self (stream : List BatchPacket) : Amid stream stream := by
  induction stream with
  | nil => exact .nil
  | cons packet stream ih => exact .passed ih

/-- A stream in which nothing is passed on is one that the proxy has made. -/
@[simp] theorem amid_nil {stream : List BatchPacket} : Amid [] stream ↔ AllMade stream := by
  constructor
  · intro amid
    generalize unpassed : ([] : List BatchPacket) = passed at amid
    induction amid with
    | nil => exact allMade_nil
    | made own _ ih => exact List.forall_mem_cons.mpr ⟨own, ih unpassed⟩
    | passed _ _ => cases unpassed
  · intro made
    induction stream with
    | nil => exact .nil
    | cons packet stream ih =>
      obtain ⟨own, rest⟩ := List.forall_mem_cons.mp made
      exact .made own (ih rest)

/-- What is queued is one batch at most. -/
@[simp] theorem OutboundQueue.queuedBatch_head {queue : OutboundQueue} :
    queue.queuedBatch.head?.toList = queue.queuedBatch := by
  unfold queuedBatch
  split <;> rfl

/-- The batch of what is queued has the packets that are queued. -/
@[simp] theorem OutboundQueue.queuedBatch_packets {queue : OutboundQueue} :
    queue.queuedBatch.flatMap Batch.packets = queue.packets := by
  unfold queuedBatch
  split <;> simp_all

end Made

namespace Peer

/-- Whether what is written to a peer goes out. -/
def isOpen (peer : Peer) : Bool := !peer.queue.dead && !peer.connection.severed

variable {peer : Peer} {batch : Batch} {batches : List Batch} {on : LinkId → Bool}

/-! ## Sending -/

/-- Sending changes nothing about a peer but its codec. -/
theorem sendAll_peer : ∃ codec, (peer.sendAll batches).2.1 =
    { peer with connection := { peer.connection with codec := codec } } := by
  induction batches generalizing peer with
  | nil => exact ⟨peer.connection.codec, rfl⟩
  | cons batch batches ih =>
    simp only [sendAll, Connection.send]
    cases peer.connection.severed with
    | true => exact ⟨_, rfl⟩
    | false =>
      obtain ⟨codec, same⟩ := @ih { peer with connection := ⟨_, false⟩ }
      exact ⟨codec, by simpa using same⟩

/-- Sending leaves the link. -/
@[simp] theorem sendAll_link : (peer.sendAll batches).2.1.link = peer.link := by
  obtain ⟨codec, same⟩ := @sendAll_peer peer batches
  rw [same]

/-- Sending leaves the queue. -/
@[simp] theorem sendAll_queue : (peer.sendAll batches).2.1.queue = peer.queue := by
  obtain ⟨codec, same⟩ := @sendAll_peer peer batches
  rw [same]

/-- Sending severs no link. -/
@[simp] theorem sendAll_severed :
    (peer.sendAll batches).2.1.connection.severed = peer.connection.severed := by
  obtain ⟨codec, same⟩ := @sendAll_peer peer batches
  rw [same]

/-- Sending fails exactly where there is something to send and nobody to receive it. -/
theorem sendAll_result : (peer.sendAll batches).1 =
    if peer.connection.severed && !batches.isEmpty then .error (.connection .linkClosed)
    else .ok () := by
  induction batches generalizing peer with
  | nil => simp [sendAll]
  | cons batch batches ih =>
    simp only [sendAll, Connection.send]
    cases peer.connection.severed <;> simp [ih]

/-- What is sent is heard unless the link is severed. -/
theorem heardOn_sendAll : heardOn on (peer.sendAll batches).2.2 =
    if on peer.link && !peer.connection.severed then batches.flatMap Batch.packets
    else [] := by
  induction batches generalizing peer with
  | nil => simp [sendAll]
  | cons batch batches ih =>
    simp only [sendAll, Connection.send]
    cases peer.connection.severed with
    | true => simp
    | false => cases same : on peer.link <;> simp [ih, same]

/-- Sending is only traffic. -/
@[simp] theorem onlyTraffic_sendAll : OnlyTraffic (peer.sendAll batches).2.2 := by
  induction batches generalizing peer with
  | nil => simp [sendAll]
  | cons batch batches ih =>
    simp only [sendAll, Connection.send]
    cases peer.connection.severed <;> simp [ih]

/-! ## Writing a batch -/

/-- Writing leaves the link. -/
@[simp] theorem write_link : (peer.write batch).2.1.link = peer.link := by
  unfold write
  cases peer.queue.write batch with
  | mk written rest => cases written <;> simp

/-- Writing severs no link. -/
@[simp] theorem write_severed :
    (peer.write batch).2.1.connection.severed = peer.connection.severed := by
  unfold write
  cases peer.queue.write batch with
  | mk written rest => cases written <;> simp

/-- Writing is only traffic. -/
@[simp] theorem onlyTraffic_write : OnlyTraffic (peer.write batch).2.2 := by
  unfold write
  cases peer.queue.write batch with
  | mk written rest => cases written <;> simp

/-- A batch that overtakes leaves the queue as it is. -/
theorem write_queue_of_skip (skip : batch.skipQueue = true) :
    (peer.write batch).2.1.queue = peer.queue := by
  cases dead : peer.queue.dead <;> simp [write, OutboundQueue.write, dead, skip]

/-- Any other batch takes along what is queued. -/
theorem write_queue_of_active (queued : batch.skipQueue = false)
    (active : peer.queue.active = true) : (peer.write batch).2.1.queue =
      if peer.queue.dead then peer.queue else { peer.queue with packets := [] } := by
  cases dead : peer.queue.dead <;> simp [write, OutboundQueue.write, dead, queued, active]

/-- Writing fails where the queue has overflowed or the link is severed. -/
theorem write_result (goesOut : batch.skipQueue = true ∨ peer.queue.active = true) :
    (peer.write batch).1 =
      if peer.queue.dead then .error (.overflow ⟨0, peer.queue.held.length⟩)
      else if peer.connection.severed then .error (.connection .linkClosed)
      else .ok () := by
  cases dead : peer.queue.dead with
  | true => simp [write, OutboundQueue.write, dead]
  | false =>
    cases skip : batch.skipQueue with
    | true => simp [write, OutboundQueue.write, dead, skip, sendAll_result]
    | false =>
      have active : peer.queue.active = true := by simpa [skip] using goesOut
      simp [write, OutboundQueue.write, dead, skip, active, sendAll_result]

/-- What is written is heard behind what was queued, unless it overtakes that. -/
theorem heardOn_write (goesOut : batch.skipQueue = true ∨ peer.queue.active = true) :
    heardOn on (peer.write batch).2.2 =
      if on peer.link && peer.isOpen then
        (if batch.skipQueue then [] else peer.queue.packets) ++ batch.packets
      else [] := by
  cases dead : peer.queue.dead with
  | true => simp [write, OutboundQueue.write, dead, isOpen]
  | false =>
    cases skip : batch.skipQueue with
    | true => simp [write, OutboundQueue.write, dead, skip, heardOn_sendAll, isOpen]
    | false =>
      have active : peer.queue.active = true := by simpa [skip] using goesOut
      simp [write, OutboundQueue.write, dead, skip, active, heardOn_sendAll, isOpen]

/-! ## Writing packets ahead of the queue -/

/-- Sending at once leaves the link. -/
@[simp] theorem sendNow_link {packets : List Packet} :
    (peer.sendNow packets).2.1.link = peer.link := by
  unfold sendNow
  split <;> simp

/-- Sending at once severs no link. -/
@[simp] theorem sendNow_severed {packets : List Packet} :
    (peer.sendNow packets).2.1.connection.severed = peer.connection.severed := by
  unfold sendNow
  split <;> simp

/-- Sending at once leaves the queue. -/
@[simp] theorem sendNow_queue {packets : List Packet} :
    (peer.sendNow packets).2.1.queue = peer.queue := by
  unfold sendNow
  split
  · rfl
  · exact write_queue_of_skip rfl

/-- Sending at once is only traffic. -/
@[simp] theorem onlyTraffic_sendNow {packets : List Packet} :
    OnlyTraffic (peer.sendNow packets).2.2 := by
  unfold sendNow
  split <;> simp

/-- Sending at once fails where the queue has overflowed or the link is severed. -/
theorem sendNow_result {packets : List Packet} : (peer.sendNow packets).1 =
    if packets.isEmpty then .ok ()
    else if peer.queue.dead then .error (.overflow ⟨0, peer.queue.held.length⟩)
    else if peer.connection.severed then .error (.connection .linkClosed)
    else .ok () := by
  unfold sendNow
  split
  · rfl
  · exact write_result (.inl rfl)

/-- What is sent at once is heard alone. -/
theorem heardOn_sendNow {packets : List Packet} : heardOn on (peer.sendNow packets).2.2 =
    if on peer.link && peer.isOpen then packets.map BatchPacket.made else [] := by
  unfold sendNow
  split
  next empty => simp_all
  next => rw [heardOn_write (.inl rfl)]; rfl

/-! ## Writing batches in a row -/

/-- Batches in a row go out behind what is queued, which the first of them takes along. -/
theorem writeAll_of_open (opened : peer.isOpen = true) (active : peer.queue.active = true)
    (queued : ∀ batch ∈ batches, batch.skipQueue = false) :
    (peer.writeAll batches).1 = .ok () ∧
      (peer.writeAll batches).2.1.queue =
        { peer.queue with packets := if batches.isEmpty then peer.queue.packets else [] } ∧
      heardOn on (peer.writeAll batches).2.2 =
        if on peer.link then
          (if batches.isEmpty then [] else peer.queue.packets) ++ batches.flatMap Batch.packets
        else [] := by
  induction batches generalizing peer with
  | nil => simp [writeAll]
  | cons batch batches ih =>
    obtain ⟨alive, whole⟩ : peer.queue.dead = false ∧ peer.connection.severed = false := by
      simpa [isOpen] using opened
    have here : batch.skipQueue = false := queued batch List.mem_cons_self
    have result : (peer.write batch).1 = .ok () := by
      rw [write_result (.inr active)]
      simp [alive, whole]
    have queue := write_queue_of_active here active
    have heard : heardOn on (peer.write batch).2.2 = _ := heardOn_write (.inr active)
    have rest := @ih (peer.write batch).2.1 (by simp [isOpen, queue, alive, whole])
      (by simp [queue, alive, active]) fun later mem => queued later (List.mem_cons_of_mem _ mem)
    simp only [writeAll, result]
    refine ⟨rest.1, by simp [rest.2.1, queue, alive], ?_⟩
    rw [heardOn_append, heard, rest.2.2]
    cases same : on peer.link <;> simp [same, here, opened, queue, alive]

/-- Writing batches severs no link. -/
@[simp] theorem writeAll_severed :
    (peer.writeAll batches).2.1.connection.severed = peer.connection.severed := by
  induction batches generalizing peer with
  | nil => rfl
  | cons batch batches ih =>
    simp only [writeAll]
    split
    · exact write_severed
    · exact ih.trans write_severed

/-! ## Flushing and closing -/

/-- Flushing leaves the link. -/
@[simp] theorem flush_link : peer.flush.2.1.link = peer.link := by
  unfold flush
  cases peer.queue.tick with
  | mk written queue => cases written <;> simp

/-- Flushing severs no link. -/
@[simp] theorem flush_severed :
    peer.flush.2.1.connection.severed = peer.connection.severed := by
  unfold flush
  cases peer.queue.tick with
  | mk written queue => cases written <;> simp

/-- What is queued goes out with the next tick, unless the queue is stopped. -/
theorem flush_queue : peer.flush.2.1.queue =
    if peer.queue.dead || !peer.queue.active then peer.queue
    else { peer.queue with packets := [] } := by
  cases dead : peer.queue.dead <;> cases active : peer.queue.active <;>
    simp [flush, OutboundQueue.tick, dead, active]

/-- What was queued is heard once it is flushed. -/
theorem heardOn_flush : heardOn on peer.flush.2.2 =
    if on peer.link && peer.isOpen && peer.queue.active then peer.queue.packets else [] := by
  cases dead : peer.queue.dead <;> cases active : peer.queue.active <;>
    simp [flush, OutboundQueue.tick, heardOn_sendAll, isOpen, dead, active]

/-- A peer that is closed keeps the name of its link. -/
@[simp] theorem close_link {last : Option Packet} : (peer.close last).1.link = peer.link := by
  unfold close
  split <;> simp

/-- Closing severs no link. -/
@[simp] theorem close_severed {last : Option Packet} :
    (peer.close last).1.connection.severed = peer.connection.severed := by
  unfold close
  split <;> simp_all

/-- Closing is only traffic. -/
@[simp] theorem onlyTraffic_close {last : Option Packet} : OnlyTraffic (peer.close last).2 := by
  unfold close
  split <;> simp

/-- Giving a peer up empties its queue, and does not bring it back. -/
theorem close_queue {last : Option Packet} : (peer.close last).1.queue =
    { peer.queue with packets := [], held := [] } := by
  unfold close
  split
  · rfl
  · simp [OutboundQueue.drain]

/-- A peer that is given up says what it still holds, and then the last packet. -/
theorem heardOn_close {last : Option Packet} : heardOn on (peer.close last).2 =
    if on peer.link && !peer.connection.severed then
      peer.queue.held.flatMap Batch.packets ++ peer.queue.packets ++
        last.toList.map BatchPacket.made
    else [] := by
  unfold close
  split
  next severed => simp [severed]
  next whole =>
    cases last <;> simp [heardOn_sendAll, OutboundQueue.drain, whole]

end Peer

end Ferry
