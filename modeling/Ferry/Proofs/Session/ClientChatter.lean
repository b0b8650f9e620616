import Ferry.Proofs.Session.PacketAccount

/-!
# What the client hears besides what it is sent on purpose

The client hears batches. Most of what a session does tells it nothing, or only what tells nothing
about where it is and what it shows: packets that were queued for it, and plain ones. A batch that
overtakes the queue is one that the proxy has made itself.
-/

namespace Ferry

/-- The batches that the client hears, in order. -/
def heardBatches (outputs : List Output) : List Batch :=
  outputs.filterMap fun
    | .written .client batch _ => some batch
    | _ => none

/-- Whether a packet tells nothing about where a client is and what it shows. -/
def Packet.isPlain : Packet → Bool
  | .stopSound _ | .disconnect _ => true
  | _ => false

/-- A plain packet that the proxy has made itself. -/
def BatchPacket.IsPlain (packet : BatchPacket) : Prop :=
  ∃ value, packet = BatchPacket.made value ∧ value.isPlain = true

/-- The batch in which packets overtake what is queued. -/
def Batch.ahead (packets : List Packet) : Batch := { Batch.made packets with skipQueue := true }

/-- A batch of packets that were queued or are plain. Only plain ones overtake the queue. -/
structure Batch.IsChatter (queued : List BatchPacket) (batch : Batch) : Prop where
  packets : ∀ packet ∈ batch.packets, packet ∈ queued ∨ packet.IsPlain
  ahead : batch.skipQueue = true → ∀ packet ∈ batch.packets, packet.IsPlain

section Heard

@[simp] theorem heardBatches_nil : heardBatches [] = [] := rfl

/-- What is heard later is heard behind the rest. -/
@[simp] theorem heardBatches_append {first second : List Output} :
    heardBatches (first ++ second) = heardBatches first ++ heardBatches second :=
  List.filterMap_append

/-- A batch is heard by the client if it is written on its link. -/
@[simp] theorem heardBatches_written {link : LinkId} {batch : Batch} {frame : Bytes}
    {rest : List Output} : heardBatches (.written link batch frame :: rest) =
      (if link.isClient then [batch] else []) ++ heardBatches rest := by
  cases link <;> rfl

/-- What is counted is not heard. -/
@[simp] theorem heardBatches_counted {counted : List Observation} :
    heardBatches (counted.map Output.counted) = [] := by
  simp [heardBatches, List.filterMap_map]

@[simp] theorem heardBatches_decodingCounted {peer : Peer} {frame : Bytes} :
    heardBatches (peer.decodingCounted frame) = [] := heardBatches_counted

/-- The client hears the packets of its batches. -/
theorem heardOn_isClient {outputs : List Output} :
    heardOn LinkId.isClient outputs = (heardBatches outputs).flatMap Batch.packets := by
  induction outputs with
  | nil => rfl
  | cons output outputs ih =>
    cases output with
    | written link batch frame =>
      rw [heardOn_written, heardBatches_written, ih, List.flatMap_append]
      cases link.isClient <;> simp
    | _ => exact ih

/-- The packets that overtake the queue are made by the proxy. -/
@[simp] theorem ahead_packets {packets : List Packet} :
    (Batch.ahead packets).packets = packets.map BatchPacket.made := rfl

/-- A batch of such packets overtakes the queue. -/
@[simp] theorem ahead_skipQueue {packets : List Packet} :
    (Batch.ahead packets).skipQueue = true := rfl

end Heard

namespace Batch

variable {queued : List BatchPacket} {batch : Batch}

/-- Chatter stays chatter when more was queued. -/
theorem IsChatter.mono {others : List BatchPacket} (chatter : batch.IsChatter queued)
    (among : queued ⊆ others) : batch.IsChatter others :=
  ⟨fun packet mem => (chatter.packets packet mem).imp_left (@among packet), chatter.ahead⟩

/-- The batch of what is queued overtakes nothing. -/
theorem queued_of_queuedBatch {queue : OutboundQueue} (mem : batch ∈ queue.queuedBatch) :
    batch.skipQueue = false := by
  unfold OutboundQueue.queuedBatch at mem
  split at mem
  · cases mem
  · cases List.mem_singleton.mp mem
    rfl

/-- What was queued is chatter. -/
theorem isChatter_queued {queue : OutboundQueue} (mem : batch ∈ queue.queuedBatch) :
    batch.IsChatter queue.packets := by
  unfold OutboundQueue.queuedBatch at mem
  split at mem
  · cases mem
  · cases List.mem_singleton.mp mem
    exact ⟨fun packet mem => .inl mem, by simp⟩

/-- Plain packets of the proxy are chatter, whether they overtake the queue or not. -/
theorem isChatter_made {packets : List Packet}
    (plain : ∀ packet ∈ packets, packet.isPlain = true) :
    (Batch.made packets).IsChatter queued ∧ (Batch.ahead packets).IsChatter queued := by
  have all : ∀ packet ∈ packets.map BatchPacket.made, packet.IsPlain := by
    simp only [List.forall_mem_map]
    exact fun packet mem => ⟨packet, rfl, plain packet mem⟩
  exact ⟨⟨fun packet mem => .inr (all packet mem), fun _ => all⟩,
    ⟨fun packet mem => .inr (all packet mem), fun _ => all⟩⟩

end Batch

namespace Peer

variable {peer : Peer} {batch : Batch} {batches : List Batch}

/-- What is sent is heard unless the link is severed. -/
theorem heardBatches_sendAll : heardBatches (peer.sendAll batches).2.2 =
    if peer.link.isClient && !peer.connection.severed then batches else [] := by
  induction batches generalizing peer with
  | nil => simp [sendAll]
  | cons batch batches ih =>
    simp only [sendAll, Connection.send]
    cases peer.connection.severed with
    | true => simp
    | false => cases same : peer.link.isClient <;> simp [ih, same]

/-- What is written is heard behind what was queued, unless it overtakes that. -/
theorem heardBatches_write (goesOut : batch.skipQueue = true ∨ peer.queue.active = true) :
    heardBatches (peer.write batch).2.2 =
      if peer.link.isClient && peer.isOpen then
        (if batch.skipQueue then [] else peer.queue.queuedBatch) ++ [batch]
      else [] := by
  cases dead : peer.queue.dead with
  | true => simp [write, OutboundQueue.write, dead, isOpen]
  | false =>
    cases skip : batch.skipQueue with
    | true => simp [write, OutboundQueue.write, dead, skip, heardBatches_sendAll, isOpen]
    | false =>
      have active : peer.queue.active = true := by simpa [skip] using goesOut
      simp [write, OutboundQueue.write, dead, skip, active, heardBatches_sendAll, isOpen]

/-- What is sent at once is heard alone. -/
theorem heardBatches_sendNow {packets : List Packet} :
    heardBatches (peer.sendNow packets).2.2 =
      if peer.link.isClient && peer.isOpen && !packets.isEmpty then [Batch.ahead packets]
      else [] := by
  unfold sendNow
  split
  next empty => simp [empty]
  next filled =>
    rw [heardBatches_write (.inl rfl)]
    simp [filled, Batch.ahead]

/-- Batches in a row are heard behind what is queued. -/
theorem heardBatches_writeAll (opened : peer.isOpen = true) (active : peer.queue.active = true)
    (queued : ∀ batch ∈ batches, batch.skipQueue = false) :
    heardBatches (peer.writeAll batches).2.2 =
      if peer.link.isClient then
        (if batches.isEmpty then [] else peer.queue.queuedBatch) ++ batches
      else [] := by
  induction batches generalizing peer with
  | nil => simp [writeAll]
  | cons batch batches ih =>
    obtain ⟨alive, whole⟩ : peer.queue.dead = false ∧ peer.connection.severed = false := by
      simpa [isOpen] using opened
    have here : batch.skipQueue = false := queued batch List.mem_cons_self
    have result : (peer.write batch).1 = .ok () := by
      rw [write_result (.inr active)]
      simp [alive, whole]
    have queue := write_queue_of_active here active
    have rest := @ih (peer.write batch).2.1 (by simp [isOpen, queue, alive, whole])
      (by simp [queue, alive, active]) fun later mem => queued later (List.mem_cons_of_mem _ mem)
    simp only [writeAll, result]
    rw [heardBatches_append, heardBatches_write (.inr active), rest]
    cases same : peer.link.isClient <;>
      simp [same, here, opened, queue, alive, OutboundQueue.queuedBatch]

/-- What was queued is heard once it is flushed. -/
theorem heardBatches_flush : heardBatches peer.flush.2.2 =
    if peer.link.isClient && peer.isOpen && peer.queue.active then peer.queue.queuedBatch
    else [] := by
  cases dead : peer.queue.dead <;> cases active : peer.queue.active <;>
    simp [flush, OutboundQueue.tick, heardBatches_sendAll, isOpen, dead, active]

/-- What a queue holds is heard before the last packet when a link is closed. -/
theorem heardBatches_close {last : Option Packet} : heardBatches (peer.close last).2 =
    if peer.link.isClient && !peer.connection.severed then
      peer.queue.held ++ peer.queue.queuedBatch ++
        last.toList.map fun packet => Batch.made [packet]
    else [] := by
  unfold close
  split
  next severed => simp [severed]
  next whole => simp [heardBatches_sendAll, OutboundQueue.drain, whole]

/-- Whatever is said on the link of a backend, the client does not hear it. -/
theorem FacesBackend.heardBatches_close (faces : peer.FacesBackend) {last : Option Packet} :
    heardBatches (peer.close last).2 = [] := by
  rw [Peer.heardBatches_close, faces.isClient]
  rfl

end Peer

/-! ## Idle work -/

/-- From one turn to another the client was sent some batches, and heard nothing else. -/
structure SessionTurn.Sends (turn : SessionTurn) (batches : List Batch) (after : SessionTurn) :
    Prop where
  tidy : after.session.Tidy
  queue : after.session.client.queue.packets ⊆ turn.session.client.queue.packets
  heard : ∃ more, after.outputs = turn.outputs ++ more ∧ heardBatches more = batches

/-- From one turn to another the client heard some batches, and then nothing but chatter. -/
def SessionTurn.Hears (turn : SessionTurn) (batches : List Batch) (after : SessionTurn) : Prop :=
  ∃ talk, turn.Sends (batches ++ talk) after ∧
    ∀ batch ∈ talk, batch.IsChatter turn.session.client.queue.packets

/-- From one turn to another the client heard nothing but chatter. -/
abbrev SessionTurn.Chats (turn after : SessionTurn) : Prop := turn.Hears [] after

/-- A player who remains where it is known to be and to whom what is known is shown. A transfer
may have ended. -/
structure Player.Remains (player known : Player) : Prop where
  dimension : player.dimension = known.dimension
  scene : player.scene = known.scene
  transfer : player.transfer = none ∨ player.transfer = known.transfer

/-- From one turn to another the client heard nothing but chatter, and its player remained. -/
structure SessionTurn.Idles (turn after : SessionTurn) : Prop where
  chats : turn.Chats after
  player : after.session.player.Remains turn.session.player

/-- From one turn to another a backend was answered, and nothing else has happened. -/
structure SessionTurn.Answers (turn after : SessionTurn) : Prop where
  sends : turn.Sends [] after
  exit : after.session.exit = turn.session.exit
  client : after.session.client = turn.session.client
  player : after.session.player = turn.session.player

/-- A player remains where it is. -/
theorem Player.Remains.refl (player : Player) : player.Remains player := ⟨rfl, rfl, .inr rfl⟩

/-- A player who remains twice remains. -/
theorem Player.Remains.trans {player between known : Player} (next : player.Remains between)
    (here : between.Remains known) : player.Remains known := by
  refine ⟨next.dimension.trans here.dimension, next.scene.trans here.scene, ?_⟩
  rcases next.transfer with ended | same
  · exact .inl ended
  · exact here.transfer.imp same.trans same.trans

namespace SessionTurn

variable {turn middle after : SessionTurn} {batches others : List Batch} {more : List Output}

/-- What is sent in two turns is sent in both together. -/
theorem Sends.trans (here : turn.Sends batches middle) (next : middle.Sends others after) :
    turn.Sends (batches ++ others) after := by
  obtain ⟨more, grown, heard⟩ := here.heard
  obtain ⟨rest, last, further⟩ := next.heard
  refine ⟨next.tidy, List.Subset.trans next.queue here.queue, more ++ rest, ?_, ?_⟩
  · rw [last, grown, List.append_assoc]
  · rw [heardBatches_append, heard, further]

/-- What is sent is heard, without chatter. -/
theorem Sends.hears (sends : turn.Sends batches after) : turn.Hears batches after :=
  ⟨[], by rw [List.append_nil]; exact sends, by simp⟩

/-- A session whose client hears something stays tidy. -/
theorem Hears.tidy (hears : turn.Hears batches after) : after.session.Tidy := by
  obtain ⟨talk, sends, -⟩ := hears
  exact sends.tidy

/-- What the client hears behind what it has heard before. -/
theorem Sends.andThen (here : turn.Sends batches middle) (next : middle.Hears others after) :
    turn.Hears (batches ++ others) after := by
  obtain ⟨talk, sends, chatter⟩ := next
  have whole := here.trans sends
  rw [← List.append_assoc] at whole
  exact ⟨talk, whole, fun batch mem => (chatter batch mem).mono here.queue⟩

/-- Chatter may follow what is heard. -/
theorem Hears.trans (here : turn.Hears batches middle) (next : middle.Chats after) :
    turn.Hears batches after := by
  obtain ⟨talk, sends, chatter⟩ := here
  obtain ⟨gossip, further, prattle⟩ := next
  have whole := sends.trans further
  rw [List.nil_append, List.append_assoc] at whole
  exact ⟨talk ++ gossip, whole, List.forall_mem_append.mpr
    ⟨chatter, fun batch mem => (prattle batch mem).mono sends.queue⟩⟩

/-- The client hears nothing of outputs that are no frames for it. -/
theorem Sends.silent (tidy : after.session.Tidy)
    (client : after.session.client.queue = turn.session.client.queue)
    (grown : after.outputs = turn.outputs ++ more) (silent : heardBatches more = []) :
    turn.Sends [] after :=
  ⟨tidy, by rw [client]; exact fun _ => id, more, grown, silent⟩

/-- Outputs that the client does not hear are no more than chatter. -/
theorem Chats.silent (tidy : after.session.Tidy)
    (client : after.session.client.queue = turn.session.client.queue)
    (grown : after.outputs = turn.outputs ++ more) (silent : heardBatches more = []) :
    turn.Chats after :=
  (Sends.silent tidy client grown silent).hears

/-- Where nothing is done, nothing is heard. -/
theorem Chats.refl (tidy : turn.session.Tidy) : turn.Chats turn :=
  .silent tidy rfl (List.append_nil _).symm rfl

/-- Where nothing is done, the turn is idle. -/
theorem Idles.refl (tidy : turn.session.Tidy) : turn.Idles turn :=
  ⟨.refl tidy, rfl, rfl, .inr rfl⟩

/-- Two idle turns are idle together. -/
theorem Idles.trans (here : turn.Idles middle) (next : middle.Idles after) : turn.Idles after :=
  ⟨here.chats.trans next.chats, next.player.trans here.player⟩

/-- Where nothing is done, nothing is answered. -/
theorem Answers.refl (tidy : turn.session.Tidy) : turn.Answers turn :=
  ⟨.silent tidy rfl (List.append_nil _).symm rfl, rfl, rfl, rfl⟩

/-- Backends may be answered one behind the other. -/
theorem Answers.trans (here : turn.Answers middle) (next : middle.Answers after) :
    turn.Answers after :=
  ⟨here.sends.trans next.sends, next.exit.trans here.exit, next.client.trans here.client,
    next.player.trans here.player⟩

/-- To answer a backend is idle. -/
theorem Answers.idles (answers : turn.Answers after) : turn.Idles after :=
  ⟨answers.sends.hears, by rw [answers.player]; exact .refl _⟩

end SessionTurn

/-- Work that is idle, unless it fails; then the client has heard nothing but chatter. -/
abbrev Work.Idle {α : Type} (work : Work α) (turn : SessionTurn) : Prop :=
  work.Leads turn (fun _ after => turn.Idles after) fun _ after => turn.Chats after

namespace Work

variable {turn : SessionTurn}

/-- Idle work that goes on from another turn. -/
theorem Idle.from {α : Type} {work : Work α} {middle : SessionTurn} (idle : work.Idle middle)
    (here : turn.Idles middle) :
    work.Leads middle (fun _ after => turn.Idles after) fun _ after => turn.Chats after :=
  idle.mono (fun _ _ next => here.trans next) fun _ _ next => here.chats.trans next

/-! ### Writing -/

/-- What is written to the client is chatter. -/
theorem idle_toClient {act : Peer → Except SessionError Unit × Peer × List Output}
    (tidy : turn.session.Tidy) (faces : (act turn.session.client).2.1.FacesClient)
    (queue : (act turn.session.client).2.1.queue.packets ⊆
      turn.session.client.queue.packets)
    (chatter : ∀ batch ∈ heardBatches (act turn.session.client).2.2,
      batch.IsChatter turn.session.client.queue.packets) : (toClient act).Idle turn := by
  have chats : turn.Chats
      ⟨{ turn.session with client := (act turn.session.client).2.1 },
        turn.outputs ++ (act turn.session.client).2.2⟩ :=
    ⟨_, ⟨⟨faces, tidy.backend, tidy.active, tidy.pending⟩, queue, _, rfl,
      (List.nil_append _).symm⟩, chatter⟩
  rw [Idle, leads_toClient, leads_check]
  cases (act turn.session.client).1 with
  | error fault => exact chats
  | ok done => exact ⟨chats, rfl, rfl, .inr rfl⟩

/-- Plain packets for the client. -/
theorem idle_sendNow {packets : List Packet} (tidy : turn.session.Tidy)
    (plain : ∀ packet ∈ packets, packet.isPlain = true) :
    (toClient fun peer => peer.sendNow packets).Idle turn := by
  refine idle_toClient tidy (tidy.client.of_same Peer.sendNow_link Peer.sendNow_queue) ?_ ?_
  · rw [Peer.sendNow_queue]
    exact fun _ => id
  · rw [Peer.heardBatches_sendNow]
    split
    · exact List.forall_mem_singleton.mpr (Batch.isChatter_made plain).2
    · simp

/-- To flush the client's queue is idle. -/
theorem idle_flush (tidy : turn.session.Tidy) : (toClient Peer.flush).Idle turn := by
  refine idle_toClient tidy tidy.client.flush ?_ ?_
  · rw [Peer.flush_queue]
    split
    · exact fun _ => id
    · exact List.nil_subset _
  · rw [Peer.heardBatches_flush]
    split
    · exact fun batch mem => Batch.isChatter_queued mem
    · simp

/-- Whatever a backend is told, the client does not hear it. -/
theorem idle_toBackend {act : Peer → Except SessionError Unit × Peer × List Output}
    (tidy : turn.session.Tidy)
    (faces : ∀ backend, turn.session.backend = some backend →
      (act backend.peer).2.1.FacesBackend ∧
        (turn.session.player.isLocked = false → (act backend.peer).2.1.queue.active = true) ∧
        heardBatches (act backend.peer).2.2 = []) : (toBackend act).Idle turn := by
  cases on : turn.session.backend with
  | none => exact (leads_toBackend_of_none on).mpr (.refl tidy)
  | some backend =>
    obtain ⟨still, active, silent⟩ := faces backend on
    have chats : turn.Chats
        ⟨{ turn.session with backend := some { backend with peer := (act backend.peer).2.1 } },
          turn.outputs ++ (act backend.peer).2.2⟩ := by
      refine .silent ⟨tidy.client, ?_, ?_, tidy.pending⟩ rfl rfl silent
      · rintro _ ⟨⟩
        exact still
      · rintro _ ⟨⟩ free
        exact active free
    rw [Idle, leads_toBackend on, leads_check]
    cases tolerate (act backend.peer).1 with
    | error fault => exact chats
    | ok done => exact ⟨chats, rfl, rfl, .inr rfl⟩

/-- Packets of the proxy for the backend. -/
theorem idle_sendNow_toBackend {packets : List Packet} (tidy : turn.session.Tidy) :
    (toBackend fun peer => peer.sendNow packets).Idle turn := by
  refine idle_toBackend tidy fun backend on => ?_
  have faces := tidy.backend backend on
  refine ⟨faces.of_same Peer.sendNow_link Peer.sendNow_queue, fun free => ?_, ?_⟩
  · rw [Peer.sendNow_queue]
    exact tidy.active backend on free
  · rw [Peer.heardBatches_sendNow, faces.isClient]
    rfl

/-- To write a batch to the backend is idle. -/
theorem idle_write_toBackend {batch : Batch} (tidy : turn.session.Tidy)
    (free : turn.session.player.isLocked = false) (queued : batch.skipQueue = false) :
    (toBackend fun peer => peer.write batch).Idle turn := by
  refine idle_toBackend tidy fun backend on => ?_
  have faces := tidy.backend backend on
  have active := tidy.active backend on free
  obtain ⟨still, kept⟩ := faces.write queued active
  refine ⟨still, fun _ => kept, ?_⟩
  rw [Peer.heardBatches_write (.inr active), faces.isClient]
  rfl

/-- To flush the backend's queue is idle. -/
theorem idle_flush_toBackend (tidy : turn.session.Tidy) : (toBackend Peer.flush).Idle turn := by
  refine idle_toBackend tidy fun backend on => ?_
  have faces := tidy.backend backend on
  obtain ⟨still, same⟩ := faces.flush
  refine ⟨still, fun free => ?_, ?_⟩
  · rw [same]
    exact tidy.active backend on free
  · rw [Peer.heardBatches_flush, faces.isClient]
    rfl

/-- Packets of the proxy for the backend that the player is moving to. -/
theorem answers_sendNow {packets : List Packet} (tidy : turn.session.Tidy) :
    (toPending fun peer => peer.sendNow packets).Leads turn (fun _ after => turn.Answers after)
      fun _ _ => False := by
  cases met : turn.session.pending with
  | none => exact (leads_toPending_of_none met).mpr (.refl tidy)
  | some pending =>
    have faces := (tidy.pending pending met).1
    have sends : turn.Sends []
        ⟨{ turn.session with
            pending := some { pending with peer := (pending.peer.sendNow packets).2.1 } },
          turn.outputs ++ (pending.peer.sendNow packets).2.2⟩ := by
      refine .silent (tidy.withPending met Peer.sendNow_link Peer.sendNow_queue) rfl rfl ?_
      rw [Peer.heardBatches_sendNow, faces.isClient]
      rfl
    have tolerated : tolerate (pending.peer.sendNow packets).1 = .ok () := by
      rw [Peer.sendNow_result, faces.alive]
      cases packets.isEmpty <;> cases pending.peer.connection.severed <;> rfl
    rw [leads_toPending met, leads_check, tolerated]
    exact ⟨sends, rfl, rfl, rfl⟩

/-! ### Routing -/

/-- The client does not hear that the backend's link is closed. -/
theorem heardBatches_backendClosing (tidy : turn.session.Tidy) :
    heardBatches turn.session.backendClosing = [] := by
  unfold Session.backendClosing
  cases there : turn.session.backend with
  | none => rfl
  | some backend => exact (tidy.backend backend there).heardBatches_close

/-- The client does not hear that the new backend's link is closed. -/
theorem heardBatches_pendingClosing (tidy : turn.session.Tidy) :
    heardBatches turn.session.pendingClosing = [] := by
  unfold Session.pendingClosing
  cases met : turn.session.pending with
  | none => rfl
  | some pending => exact (tidy.pending pending met).1.heardBatches_close

/-- To fall back on another server is idle. -/
theorem fallenBack_idles {lost : Server} {reason : Farewell} {message : String}
    (tidy : turn.session.Tidy) : turn.Idles (turn.fallenBack lost reason message) := by
  have still := (@fallenBack_proceeds turn lost reason message tidy).passes.tidy
  unfold SessionTurn.fallenBack at still ⊢
  dsimp only at still ⊢
  split at still
  · exact ⟨.silent still rfl rfl rfl, rfl, rfl, .inr rfl⟩
  · exact ⟨.silent still rfl rfl rfl, rfl, rfl, .inr rfl⟩

/-- To take a player from all backends is idle. -/
theorem adrift_idles (tidy : turn.session.Tidy) : turn.Idles turn.adrift := by
  refine ⟨.silent (adrift_proceeds tidy).passes.tidy rfl (List.append_assoc _ _ _) ?_, rfl, rfl,
    .inl rfl⟩
  rw [heardBatches_append, heardBatches_pendingClosing tidy, heardBatches_backendClosing tidy]
  rfl

/-- To give a transfer up is idle. -/
theorem abandoned_idles {target : Server} {message : String} (tidy : turn.session.Tidy) :
    turn.Idles (turn.abandoned target message) :=
  have adrift := adrift_idles tidy
  adrift.trans (fallenBack_idles adrift.chats.tidy)

/-- A transfer that fails is idle. -/
theorem idle_failTransfer {message : String} (tidy : turn.session.Tidy) :
    (failTransfer message).Idle turn := by
  rw [Idle, leads_failTransfer]
  cases destination turn.session with
  | none => exact .refl tidy
  | some target => exact abandoned_idles tidy

/-- To close the backend's link is idle. -/
theorem closed_idles (tidy : turn.session.Tidy) : turn.Idles
    ⟨{ turn.session with backend := none }, turn.outputs ++ turn.session.backendClosing⟩ :=
  ⟨.silent (closed_proceeds tidy).passes.tidy rfl rfl (heardBatches_backendClosing tidy), rfl, rfl,
    .inr rfl⟩

/-- To lose the backend is idle. -/
theorem idle_loseBackend {message : Option String} (tidy : turn.session.Tidy)
    (course : turn.session.Course) : (loseBackend message).Idle turn :=
  have closed := closed_idles tidy
  leads_loseBackend_of_course course (fun _ => .refl tidy) closed
    (fun _ _ _ _ => closed.trans (fallenBack_idles closed.chats.tidy))
    fun _ _ => closed.trans (abandoned_idles closed.chats.tidy)

/-- To call for a server is idle. -/
theorem idle_connectTo {server : Server} {source : Option Server} (tidy : turn.session.Tidy) :
    (connectTo server source).Idle turn := by
  cases moving : turn.session.player.transfer with
  | some transfer => exact (leads_connectTo_of_moving (by rw [moving]; rfl)).mpr (.refl tidy)
  | none =>
    exact (leads_connectTo moving).mpr ⟨.silent
      ⟨tidy.client, tidy.backend, tidy.active, by simp⟩ rfl rfl rfl, rfl, rfl, .inr rfl⟩

/-- A client that has arrived hears that no sound is to go on. -/
theorem idle_finishArrival {transfer : Transfer} (tidy : turn.session.Tidy)
    (free : turn.session.player.isLocked = false) : (finishArrival transfer).Idle turn := by
  have done : turn.Idles ⟨{ turn.session with
      player := { turn.session.player with transfer := none } }, turn.outputs⟩ :=
    ⟨.silent (tidy.arrived free) rfl (List.append_nil _).symm rfl, rfl, rfl, .inl rfl⟩
  have plain : ∀ packet ∈ Player.completionPackets, packet.isPlain = true := by
    simp [Player.completionPackets, Packet.isPlain]
  refine leads_finishArrival.mpr
    (((idle_sendNow done.chats.tidy plain).from done).mono ?_ fun _ _ fault => fault)
  intro _ after told
  split
  · refine ((idle_sendNow_toBackend told.chats.tidy).from told).mono ?_ fun _ _ fault => fault
    intro _ last here
    refine here.trans ⟨.silent here.chats.tidy rfl rfl ?_, rfl, rfl, .inr rfl⟩
    cases transfer.source <;> rfl
  · exact told.trans (abandoned_idles told.chats.tidy)

/-- An acknowledgment is idle while the client is free. -/
theorem idle_acknowledge (tidy : turn.session.Tidy) (course : turn.session.Course)
    (free : turn.session.player.isLocked = false) : acknowledge.Idle turn := by
  have idle (still : turn.session.player.transfer = none) : acknowledge.Idle turn := by
    simpa [Idle, acknowledge, still] using SessionTurn.Idles.refl tidy
  cases course with
  | settled _ _ _ still => exact idle still
  | dialing _ _ still => exact idle still
  | loggingIn _ _ _ still => exact idle still
  | departing met started uncalled moving locked aimed =>
    simp [Player.isLocked, Transfer.isLocked, moving, locked] at free
  | arriving on alone uncalled moving left there =>
    simp only [Idle, acknowledge, leads_bind, leads_session, moving, Option.map_some,
      Transfer.acknowledge, left]
    exact idle_finishArrival tidy free

/-! ### Actions -/

/-- What the frames of a backend or a free client ask for. -/
theorem idle_actAll {source : BatchSource} {actions : List Action} (tidy : turn.session.Tidy)
    (going : turn.session.exit = none) (underway : turn.session.Underway)
    (free : turn.session.player.isLocked = false)
    (asked : ∀ action ∈ actions, action = .dimensionChanged ∨ ∃ message, action = .kicked message) :
    (actAll source actions).Idle turn := by
  have freed {after : SessionTurn} (idles : turn.Idles after) :
      after.session.player.isLocked = false := by
    unfold Player.isLocked at *
    rcases idles.player.transfer with ended | same
    · simp [ended]
    · rw [same, free]
  have all : (actAll source actions).Leads turn
      (fun _ after => turn.Idles after ∧ after.session.Underway)
      fun _ after => turn.Chats after := by
    refine leads_actAll (fun after => turn.Idles after ∧ after.session.Underway)
      ?_ going ⟨.refl tidy, underway⟩
    rintro action mem here goes ⟨idles, kept⟩
    have idle : (act source action).Idle here := by
      rcases asked action mem with rfl | ⟨message, rfl⟩
      · exact idle_acknowledge idles.chats.tidy (kept.2 goes) (freed idles)
      · exact idle_loseBackend idles.chats.tidy (kept.2 goes)
    refine ((idle.from idles).and (staysUnderway_act kept (kept.2 goes))).mono ?_ ?_
    · intro _ _ both
      exact both
    · intro _ _ both
      exact both.1
  exact all.mono (fun _ _ both => both.1) fun _ _ fault => fault

/-- What a new backend asks for, other than to start a transfer. -/
theorem idle_act_pending {action : Action} (tidy : turn.session.Tidy)
    (own : action.isOfArrival = true) (starts : action.isStart = false) :
    (act .pending action).Idle turn := by
  cases action with
  | reply packet =>
    simp only [act, reply]
    exact (answers_sendNow tidy).mono (fun _ _ answers => answers.idles) fun _ _ => False.elim
  | transferFailed message => exact idle_failTransfer tidy
  | transferStarted teardown => cases starts
  | dimensionChanged => cases own
  | kicked message => cases own

/-- What a new backend that has spawned the player asks for is idle. -/
theorem idle_actAll_pending {actions : List Action} (tidy : turn.session.Tidy)
    (going : turn.session.exit = none)
    (quiet : ∀ action ∈ actions, action.isOfArrival = true ∧ action.isStart = false) :
    (actAll .pending actions).Idle turn := by
  refine leads_actAll (fun after => turn.Idles after) ?_ going (.refl tidy)
  intro action mem here _ idles
  obtain ⟨own, starts⟩ := quiet action mem
  exact (idle_act_pending idles.chats.tidy own starts).from idles

/-! ### Other events -/

/-- A server that answers the call leaves the client idle. -/
theorem idle_onConnected {attempt : Nat} {result : Except String (Nat × Connection)}
    (tidy : turn.session.Tidy) : (onConnected attempt result).Idle turn := by
  have missed : turn.Idles ⟨{ turn.session with connecting := none }, turn.outputs⟩ :=
    ⟨.silent ⟨tidy.client, tidy.backend, tidy.active, tidy.pending⟩ rfl
      (List.append_nil _).symm rfl, rfl, rfl, .inr rfl⟩
  refine leads_onConnected (.refl tidy)
    (fun _ _ => missed.trans (abandoned_idles missed.chats.tidy)) fun _ _ _ _ _ => ?_
  exact ⟨.silent tidy.connect rfl (List.append_nil _).symm rfl, rfl, rfl, .inr rfl⟩

/-- A call to another server leaves the client idle. -/
theorem idle_onTransfer {server : Server} (tidy : turn.session.Tidy) :
    (onTransfer server).Idle turn := by
  simp only [Idle, onTransfer, leads_bind, leads_session]
  split
  · exact idle_connectTo tidy
  · exact .refl tidy

/-- A tick leaves the client idle. -/
theorem idle_tick (tidy : turn.session.Tidy) : (onEvent .tick).Idle turn := by
  refine leads_bind.mpr ((idle_flush tidy).mono ?_ fun _ _ here => here)
  intro _ after flushed
  exact (idle_flush_toBackend flushed.chats.tidy).from flushed

end Work

/-- A session that is closed down sends its farewell behind what is queued. -/
theorem SessionTurn.closedDown_chats {turn : SessionTurn} {exit : Exit}
    (tidy : turn.session.Tidy) : turn.Chats (turn.closedDown exit) := by
  refine ⟨_, ⟨(closedDown_passes tidy).tidy, ?_, turn.session.pendingClosing ++
    turn.session.backendClosing ++ (turn.session.client.close exit.last).2, ?_,
    (List.nil_append _).symm⟩, ?_⟩
  · simp [closedDown, Peer.close_queue]
  · simp [closedDown]
  · rw [heardBatches_append, heardBatches_append, Work.heardBatches_pendingClosing tidy,
      Work.heardBatches_backendClosing tidy, Peer.heardBatches_close, tidy.client.unheld]
    simp only [List.nil_append]
    split
    · intro batch mem
      rcases List.mem_append.mp mem with mem | mem
      · exact Batch.isChatter_queued mem
      · obtain ⟨packet, said, rfl⟩ := List.mem_map.mp mem
        refine (Batch.isChatter_made fun other here => ?_).1
        cases List.mem_singleton.mp here
        cases exit with
        | farewell reason =>
          cases Option.mem_toList.mp said
          rfl
        | clientGone => cases Option.mem_toList.mp said
    · simp

end Ferry
