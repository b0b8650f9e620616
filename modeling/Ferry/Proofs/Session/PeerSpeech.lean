import Ferry.Proofs.Session.EventLessons

/-!
# What is said to a peer

What is written to a peer is heard on its link, behind what was queued there, or waits in its queue.
What the proxy says to the client of its own accord takes no leave of it, and neither does anything
of a backend that is passed on.
-/

namespace Ferry

/-- All that is in a queue. -/
def OutboundQueue.content (queue : OutboundQueue) : List BatchPacket :=
  queue.held.flatMap Batch.packets ++ queue.packets

/-- What becomes of a peer that some packets are said to: they are heard on its link, with what was
in its queue, or they wait there. -/
structure Peer.Speaks (peer : Peer) (said : List BatchPacket) (after : Peer)
    (outputs : List Output) : Prop where
  link : after.link = peer.link
  content : after.queue.content ⊆ peer.queue.content ++ said
  heard : ∀ on, heardOn on outputs ⊆ peer.queue.content ++ said
  own : ∀ on, on peer.link = false → heardOn on outputs = []
  traffic : OnlyTraffic outputs

/-- Packets none of which takes leave. -/
def NoFarewells (packets : List BatchPacket) : Prop :=
  ∀ packet ∈ packets, packet.header.id ≠ PacketId.disconnect

namespace OutboundQueue

variable {queue : OutboundQueue} {batch : Batch}

/-- A batch that is written leaves with what was there, or stays with it. -/
theorem write_content (queue : OutboundQueue) (batch : Batch) :
    (queue.write batch).2.1.content ⊆ queue.content ++ batch.packets ∧
      ∀ batches, (queue.write batch).1 = .ok batches →
        batches.flatMap Batch.packets ⊆ queue.content ++ batch.packets := by
  cases dead : queue.dead with
  | true =>
    simp only [write, dead, if_true]
    exact ⟨List.subset_append_left _ _, fun _ failed => by cases failed⟩
  | false =>
    cases skip : batch.skipQueue with
    | true =>
      simp only [write, dead, skip, Bool.false_eq_true, if_false, if_true]
      refine ⟨List.subset_append_left _ _, ?_⟩
      rintro _ ⟨⟩
      simp
    | false =>
      cases active : queue.active with
      | true =>
        simp only [write, dead, skip, active, Bool.false_eq_true, if_false, if_true]
        refine ⟨?_, ?_⟩
        · simp [content]
        · rintro _ ⟨⟩
          simp [content]
      | false =>
        simp only [write, dead, skip, active, Bool.false_eq_true, if_false]
        split
        · refine ⟨?_, ?_⟩
          · simp [content]
          · rintro _ ⟨⟩
            simp
        · exact ⟨by simp [content, overflow], fun _ failed => by cases failed⟩

/-- A tick takes nothing out of a queue but what was in it, and puts nothing in. -/
theorem tick_content (queue : OutboundQueue) : queue.tick.2.content ⊆ queue.content ∧
    ∀ batch, queue.tick.1 = .ok batch →
      batch.toList.flatMap Batch.packets ⊆ queue.content := by
  unfold tick
  split
  · exact ⟨fun _ => id, fun _ failed => by cases failed⟩
  · split
    · refine ⟨by simp [content], ?_⟩
      rintro _ ⟨⟩
      rw [queuedBatch_head, queuedBatch_packets]
      exact List.subset_append_right _ _
    · refine ⟨fun _ => id, ?_⟩
      rintro _ ⟨⟩
      exact List.nil_subset _

end OutboundQueue

namespace Peer

variable {peer middle after : Peer} {said more : List BatchPacket} {outputs others : List Output}
  {batch : Batch} {batches : List Batch}

/-- A peer that nothing is said to is as it was. -/
theorem Speaks.refl (peer : Peer) : peer.Speaks [] peer [] where
  link := rfl
  content := by simp
  heard _ := List.nil_subset _
  own _ _ := rfl
  traffic := onlyTraffic_nil

/-- What is said twice is said one behind the other. -/
theorem Speaks.trans (here : peer.Speaks said middle outputs)
    (next : middle.Speaks more after others) :
    peer.Speaks (said ++ more) after (outputs ++ others) where
  link := next.link.trans here.link
  content := by
    rw [← List.append_assoc]
    exact List.Subset.trans next.content (List.append_subset.mpr
      ⟨List.Subset.trans here.content (List.subset_append_left _ _),
        List.subset_append_right _ _⟩)
  heard on := by
    rw [heardOn_append, ← List.append_assoc]
    refine List.append_subset.mpr
      ⟨List.Subset.trans (here.heard on) (List.subset_append_left _ _), ?_⟩
    exact List.Subset.trans (next.heard on) (List.append_subset.mpr
      ⟨List.Subset.trans here.content (List.subset_append_left _ _),
        List.subset_append_right _ _⟩)
  own on away := by
    rw [heardOn_append, here.own on away, next.own on (by rw [here.link, away])]
    rfl
  traffic := onlyTraffic_append.mpr ⟨here.traffic, next.traffic⟩

/-- Whatever more is said stands beside what was in the queue. -/
theorem said_wider (among : said ⊆ more) :
    peer.queue.content ++ said ⊆ peer.queue.content ++ more :=
  List.append_subset.mpr ⟨List.subset_append_left _ _,
    List.Subset.trans among (List.subset_append_right _ _)⟩

/-- What is said is among whatever more may be said. -/
theorem Speaks.mono (speaks : peer.Speaks said after outputs) (among : said ⊆ more) :
    peer.Speaks more after outputs where
  link := speaks.link
  content := List.Subset.trans speaks.content (said_wider among)
  heard on := List.Subset.trans (speaks.heard on) (said_wider among)
  own := speaks.own
  traffic := speaks.traffic

/-- Batches that a queue lets out are heard. -/
theorem speaks_sendAll {queue : OutboundQueue}
    (content : queue.content ⊆ peer.queue.content ++ said)
    (out : batches.flatMap Batch.packets ⊆ peer.queue.content ++ said) :
    peer.Speaks said (({ peer with queue := queue } : Peer).sendAll batches).2.1
      (({ peer with queue := queue } : Peer).sendAll batches).2.2 where
  link := sendAll_link
  content := by rwa [sendAll_queue]
  heard on := by
    rw [heardOn_sendAll]
    split
    · exact out
    · exact List.nil_subset _
  own on away := by
    rw [heardOn_sendAll]
    simp [away]
  traffic := onlyTraffic_sendAll

/-- A batch that is written is said. -/
theorem speaks_write : peer.Speaks batch.packets (peer.write batch).2.1 (peer.write batch).2.2 := by
  obtain ⟨content, out⟩ := peer.queue.write_content batch
  unfold write
  generalize peer.queue.write batch = outcome at content out
  obtain ⟨written, queue, counted⟩ := outcome
  have silent : peer.Speaks [] peer (counted.map Output.counted) :=
    ⟨rfl, by simp, fun _ => by simp, fun _ _ => by simp, onlyTraffic_counted⟩
  cases written with
  | error fault =>
    have dropped := silent.trans (@speaks_sendAll peer _ [] queue content (List.nil_subset _))
    rw [sendAll, List.append_nil] at dropped
    exact dropped
  | ok batches => exact silent.trans (speaks_sendAll content (out batches rfl))

/-- Batches that are written are said. -/
theorem speaks_writeAll : peer.Speaks (batches.flatMap Batch.packets) (peer.writeAll batches).2.1
    (peer.writeAll batches).2.2 := by
  induction batches generalizing peer with
  | nil => exact .refl peer
  | cons batch batches ih =>
    simp only [writeAll, List.flatMap_cons]
    split
    next => exact speaks_write.mono (List.subset_append_left _ _)
    next => exact speaks_write.trans ih

/-- Packets that are sent at once are said. -/
theorem speaks_sendNow {packets : List Packet} :
    peer.Speaks (packets.map BatchPacket.made) (peer.sendNow packets).2.1
      (peer.sendNow packets).2.2 := by
  unfold sendNow
  split
  next empty =>
    rw [List.isEmpty_iff.mp empty]
    exact .refl peer
  next => exact @speaks_write peer { Batch.made packets with skipQueue := true }

/-- To flush says nothing new. -/
theorem speaks_flush : peer.Speaks [] peer.flush.2.1 peer.flush.2.2 := by
  obtain ⟨content, out⟩ := peer.queue.tick_content
  unfold flush
  generalize peer.queue.tick = outcome at content out
  obtain ⟨written, queue⟩ := outcome
  rw [← List.append_nil peer.queue.content] at content out
  cases written with
  | error fault => exact @speaks_sendAll peer _ [] queue content (List.nil_subset _)
  | ok batch => exact speaks_sendAll content (out batch rfl)

/-- To open a frame says nothing. -/
theorem speaks_decoding {frame : Bytes} :
    peer.Speaks [] (peer.decoding frame) (peer.decodingCounted frame) where
  link := rfl
  content := by simp [decoding]
  heard _ := by simp
  own _ _ := by simp
  traffic := onlyTraffic_counted

end Peer

/-! ## Packets that take leave -/

/-- Two rows of packets take no leave if neither of them does. -/
theorem noFarewells_append {first second : List BatchPacket} :
    NoFarewells (first ++ second) ↔ NoFarewells first ∧ NoFarewells second :=
  List.forall_mem_append

/-- Packets of the proxy that take no leave. -/
theorem noFarewells_made {packets : List Packet} :
    NoFarewells (packets.map BatchPacket.made) ↔
      ∀ packet ∈ packets, packet.id ≠ PacketId.disconnect :=
  List.forall_mem_map

/-- What takes from the client what it shows takes no leave. -/
theorem noFarewells_teardown (scene : Scene) :
    NoFarewells (scene.teardown.map BatchPacket.made) := by
  rw [noFarewells_made]
  intro packet mem
  unfold Scene.teardown at mem
  dsimp only at mem
  rcases List.mem_append.mp mem with mem | mem
  · rcases List.mem_append.mp mem with mem | mem
    · obtain ⟨link, -, rfl⟩ := List.mem_map.mp mem
      exact (by decide : PacketId.setEntityLink ≠ PacketId.disconnect)
    · obtain ⟨uniqueId, -, rfl⟩ := List.mem_map.mp mem
      exact (by decide : PacketId.removeEntity ≠ PacketId.disconnect)
  · split at mem
    · cases mem
    · obtain rfl := List.mem_singleton.mp mem
      exact (by decide : PacketId.playerList ≠ PacketId.disconnect)

/-- A change of dimension takes no leave. -/
theorem noFarewells_change (dimension : Int32) (position : Vector) (radius : Int32) :
    NoFarewells ((Dimension.change dimension position radius).map BatchPacket.made) := by
  rw [noFarewells_made]
  intro packet mem
  unfold Dimension.change at mem
  rcases List.mem_append.mp mem with mem | mem
  · rcases List.mem_append.mp mem with mem | mem
    · obtain rfl := List.mem_singleton.mp mem
      exact (by decide : PacketId.changeDimension ≠ PacketId.disconnect)
    · obtain ⟨x, -, mem⟩ := List.mem_flatMap.mp mem
      obtain ⟨z, -, rfl⟩ := List.mem_map.mp mem
      exact (by decide : PacketId.levelChunk ≠ PacketId.disconnect)
  · obtain rfl := List.mem_singleton.mp mem
    exact (by decide : PacketId.networkChunkPublisherUpdate ≠ PacketId.disconnect)

/-- The end of a transfer takes no leave. -/
theorem noFarewells_completion : NoFarewells (Player.completionPackets.map BatchPacket.made) := by
  rw [noFarewells_made]
  exact List.forall_mem_singleton.mpr (by decide)

/-- Nor does what sends it from one backend to another. -/
theorem noFarewells_departure (player : Player) (transfer : Transfer) :
    NoFarewells ((player.departurePackets transfer).map BatchPacket.made) := by
  rw [Player.departurePackets, List.map_append]
  exact noFarewells_append.mpr ⟨noFarewells_change _ _ _, noFarewells_completion⟩

/-- An arrival takes no leave. -/
theorem noFarewells_arrival (player : Player) (transfer : Transfer) :
    NoFarewells ((player.arrivalPackets transfer).map BatchPacket.made) := by
  unfold Player.arrivalPackets
  dsimp only
  rw [List.map_append, List.map_append]
  refine noFarewells_append.mpr ⟨noFarewells_append.mpr ⟨?_, ?_⟩, noFarewells_completion⟩
  · rw [noFarewells_made]
    refine List.forall_mem_cons.mpr ⟨?_, List.forall_mem_singleton.mpr ?_⟩
    · exact (by decide : PacketId.setEntityData ≠ PacketId.disconnect)
    · exact (by decide : PacketId.movePlayer ≠ PacketId.disconnect)
  · split
    · exact fun _ mem => by cases mem
    · exact noFarewells_change _ _ _

/-- What is read of a body of that kind takes leave. -/
theorem Packet.decode_disconnect {version : Version} {body : Bytes} {value : Packet}
    (decoded : decode version PacketId.disconnect body = .ok value) :
    ∃ farewell, value = .disconnect farewell := by
  have yields : (reader version PacketId.disconnect).Yields fun value =>
      ∃ farewell, value = .disconnect farewell :=
    (Disconnect.layout_exact version).fits.map fun farewell _ => ⟨farewell, rfl⟩
  exact yields _ _ _ (decode_eq_ok_iff.mp decoded)

/-- A handler that takes every packet that takes leave out of its batch. -/
structure Handler.Detains {σ : Type} (handler : Handler σ) : Prop where
  wants : ∀ state, handler.wants state PacketId.disconnect = true
  cancels : ∀ state player farewell,
    (handler.handle state player (.disconnect farewell)).verdict = .cancel

/-- A backend's word that it has sent the player away stays with the proxy. -/
theorem Handler.backend_detains (server : Server) : (Handler.backend server).Detains where
  wants _ := rfl
  cancels _ _ _ := rfl

/-- A new backend's word that it has sent the player away stays with the proxy. -/
theorem Handler.arrival_detains : Handler.arrival.Detains where
  wants arrival := by simp [Handler.arrival]
  cancels arrival player farewell := by
    unfold Handler.arrival
    dsimp only
    split <;> rfl

/-- With such a handler, nothing that is passed on takes leave. -/
theorem Handler.Detains.process {σ : Type} {handler : Handler σ} (detains : handler.Detains)
    {direction : Direction} {version : Version} {state : σ} {player : Player} {batch : Batch}
    (received : ∀ packet ∈ batch.packets, packet.decoded = none) :
    NoFarewells (Bridge.process handler direction version state player batch).batch.packets := by
  refine Bridge.process_tracks (fun passage => NoFarewells passage.2.2) ?_
    (fun _ mem => by cases mem)
  intro crossing packet mem here passage crosses
  cases crosses with
  | unread unnoticed =>
    refine noFarewells_append.mpr ⟨here, List.forall_mem_singleton.mpr fun leaves => ?_⟩
    rw [Bridge.isNoticed, leaves, detains.wants] at unnoticed
    cases unnoticed
  | unreadable => exact here
  | takenOut => exact here
  | @letThrough value handled decoded same verdict =>
    -- The handler has seen the packet as what it is, and has taken such a packet out.
    refine noFarewells_append.mpr ⟨here, List.forall_mem_singleton.mpr fun leaves => ?_⟩
    have leaves : packet.header.id = PacketId.disconnect := leaves
    rw [BatchPacket.decode, received packet mem, leaves] at decoded
    obtain ⟨farewell, rfl⟩ := Packet.decode_disconnect decoded
    rw [leaves, Bridge.handle, if_pos (detains.wants _)] at same
    rw [same, detains.cancels] at verdict
    simp at verdict

end Ferry
