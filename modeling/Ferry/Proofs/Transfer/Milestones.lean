import Ferry.Proofs.Transfer.Acknowledgment
import Ferry.Proofs.Session.ArrivalLessons

/-!
# The milestones of a transfer

On account of a transfer the proxy itself speaks up: it sends batches to the client ahead of all
that is queued, it tells the new backend that the client has arrived, and it reports the transfer.
Most of what a session does is no milestone. For each task, the milestones that it reaches.
-/

namespace Ferry

/-- What the proxy itself says on account of a transfer. -/
inductive Milestone where
  /-- The client is sent a batch ahead of what is queued. -/
  | directed (batch : Batch)
  /-- On a link to a backend, the proxy names the player by an id who has arrived there. -/
  | initialized (link : LinkId) (runtimeId : UInt64)
  /-- A transfer is reported to be complete. -/
  | transferred (source target : Server)

/-- By which id the proxy itself tells that a player has arrived. A packet that only passes by was
read from a body. -/
def BatchPacket.initialized? (packet : BatchPacket) : Option UInt64 :=
  match packet.decoded with
  | some (.setLocalPlayerAsInitialized word) =>
    if packet = made (.setLocalPlayerAsInitialized word) then some word.runtimeId else none
  | _ => none

/-- What a batch says on a link. -/
def Batch.milestones (batch : Batch) (link : LinkId) : List Milestone :=
  if link.isClient then if batch.skipQueue then [.directed batch] else []
  else (batch.packets.filterMap BatchPacket.initialized?).map (Milestone.initialized link)

/-- The milestones among outputs, in order. -/
def milestones (outputs : List Output) : List Milestone :=
  outputs.flatMap fun
    | .written link batch _ => batch.milestones link
    | .transferred source target => [.transferred source target]
    | _ => []

section Outputs

@[simp] theorem milestones_nil : milestones [] = [] := rfl

/-- Milestones of two rows of outputs follow one another. -/
@[simp] theorem milestones_append {first second : List Output} :
    milestones (first ++ second) = milestones first ++ milestones second :=
  List.flatMap_append

/-- A batch that is written says what it says on its link. -/
@[simp] theorem milestones_written {link : LinkId} {batch : Batch} {frame : Bytes}
    {rest : List Output} : milestones (.written link batch frame :: rest) =
      batch.milestones link ++ milestones rest := rfl

/-- To call for a server is no milestone. -/
@[simp] theorem milestones_dialed {attempt : Nat} {server : Server} {rest : List Output} :
    milestones (.dialed attempt server :: rest) = milestones rest := rfl

/-- To look for another server is no milestone. -/
@[simp] theorem milestones_soughtFallback {lost : Server} {found : Option Server}
    {rest : List Output} : milestones (.soughtFallback lost found :: rest) = milestones rest := rfl

/-- To rebuild the packs is no milestone. -/
@[simp] theorem milestones_packsRebuilt {rest : List Output} :
    milestones (.packsRebuilt :: rest) = milestones rest := rfl

/-- That a transfer is complete is a milestone. -/
@[simp] theorem milestones_transferred {source : Option Server} {target : Server} :
    milestones (source.toList.map fun source => .transferred source target) =
      source.toList.map fun source => .transferred source target := by cases source <;> rfl

/-- To count is no milestone. -/
@[simp] theorem milestones_counted {counted : List Observation} :
    milestones (counted.map Output.counted) = [] := by
  simp [milestones, List.flatMap_map]

@[simp] theorem milestones_decodingCounted {peer : Peer} {frame : Bytes} :
    milestones (peer.decodingCounted frame) = [] := milestones_counted

end Outputs

/-- The link of a peer, as long as it is there. -/
def Peer.openLink (peer : Peer) : Option LinkId :=
  if peer.connection.severed then none else some peer.link

/-- The link of the backend, as long as it is there. -/
def Session.backendLink (session : Session) : Option LinkId :=
  session.backend.bind fun backend => backend.peer.openLink

/-- The link of the backend that the player is moving to, as long as it is there. -/
def Session.pendingLink (session : Session) : Option LinkId :=
  session.pending.bind fun pending => pending.peer.openLink

/-- What is said of a client that has arrived: it is told so, and, as long as the link of the new
backend is there, so are that backend and whoever listens. -/
def arrivalMilestones (link : Option LinkId) (player : Player) (transfer : Transfer) :
    List Milestone :=
  .directed (Batch.ahead Player.completionPackets) ::
    match link with
    | none => []
    | some link => .initialized link player.mapping.backend.runtimeId ::
        transfer.source.toList.map fun source => .transferred source transfer.target

/-! ## What is said on a link -/

namespace Batch

variable {batch : Batch} {link : LinkId} {packets : List Packet}

/-- What waits its turn with the client is no milestone. -/
theorem milestones_of_queued (here : link.isClient = true) (queued : batch.skipQueue = false) :
    batch.milestones link = [] := by simp [milestones, here, queued]

/-- Packets that only pass by say nothing on the link of a backend. -/
theorem milestones_of_passing (away : link.isClient = false)
    (passing : ∀ packet ∈ batch.packets, packet.initialized? = none) :
    batch.milestones link = [] := by
  have silent : batch.packets.filterMap BatchPacket.initialized? = [] :=
    List.filterMap_eq_nil_iff.mpr passing
  simp [milestones, away, silent]

/-- What overtakes the client's queue is a milestone. -/
theorem milestones_ahead (here : link.isClient = true) :
    (ahead packets).milestones link = [.directed (ahead packets)] := by simp [milestones, here]

end Batch

namespace Peer

variable {peer : Peer} {batch : Batch} {batches : List Batch} {packets : List Packet}

/-- What is sent says what its batches say, unless the link is severed. -/
theorem milestones_sendAll : milestones (peer.sendAll batches).2.2 =
    if !peer.connection.severed then batches.flatMap (·.milestones peer.link) else [] := by
  induction batches generalizing peer with
  | nil => simp [sendAll]
  | cons batch batches ih =>
    simp only [sendAll, Connection.send]
    cases peer.connection.severed <;> simp [ih]

/-- What is written says what was queued before it and what it says itself, unless it overtakes. -/
theorem milestones_write (goesOut : batch.skipQueue = true ∨ peer.queue.active = true) :
    milestones (peer.write batch).2.2 =
      if peer.isOpen then
        (if batch.skipQueue then [] else peer.queue.queuedBatch.flatMap (·.milestones peer.link)) ++
          batch.milestones peer.link
      else [] := by
  cases dead : peer.queue.dead with
  | true => simp [write, OutboundQueue.write, dead, isOpen]
  | false =>
    cases skip : batch.skipQueue with
    | true => simp [write, OutboundQueue.write, dead, skip, milestones_sendAll, isOpen]
    | false =>
      have active : peer.queue.active = true := by simpa [skip] using goesOut
      simp [write, OutboundQueue.write, dead, skip, active, milestones_sendAll, isOpen]

/-- What is sent at once says what it says, if the peer is open. -/
theorem milestones_sendNow (nonempty : packets ≠ []) : milestones (peer.sendNow packets).2.2 =
    if peer.isOpen then (Batch.ahead packets).milestones peer.link else [] := by
  have filled : packets.isEmpty = false := by simpa using nonempty
  unfold sendNow
  rw [if_neg (by simp [filled]), milestones_write (.inl rfl)]
  rfl

/-- What is queued says nothing, neither to the client nor, as there is nothing, to a backend. -/
structure IsMute (peer : Peer) : Prop where
  unheld : peer.queue.held = []
  queued : peer.queue.queuedBatch.flatMap (·.milestones peer.link) = []

/-- What is queued for the client is no milestone. -/
theorem FacesClient.isMute (faces : peer.FacesClient) : peer.IsMute := by
  refine ⟨faces.unheld, List.flatMap_eq_nil_iff.mpr fun batch mem => ?_⟩
  exact Batch.milestones_of_queued faces.isClient (Batch.queued_of_queuedBatch mem)

/-- Nothing is queued for a backend, so nothing of it is a milestone. -/
theorem FacesBackend.isMute (faces : peer.FacesBackend) : peer.IsMute :=
  ⟨faces.unheld, by simp [OutboundQueue.queuedBatch, faces.empty]⟩

/-- What says nothing is written without a milestone. -/
theorem IsMute.milestones_write (mute : peer.IsMute) (active : peer.queue.active = true)
    (silent : batch.milestones peer.link = []) : milestones (peer.write batch).2.2 = [] := by
  rw [Peer.milestones_write (.inr active), mute.queued, silent]
  simp

/-- A queue that says nothing is flushed without a milestone. -/
theorem IsMute.milestones_flush (mute : peer.IsMute) : milestones peer.flush.2.2 = [] := by
  have queued := mute.queued
  cases dead : peer.queue.dead <;> cases active : peer.queue.active <;>
    simp [flush, OutboundQueue.tick, milestones_sendAll, dead, active, queued]

/-- A link is closed without a milestone, if the last packet says nothing. -/
theorem IsMute.milestones_close {last : Option Packet} (mute : peer.IsMute)
    (silent : ∀ packet, last = some packet → (Batch.made [packet]).milestones peer.link = []) :
    milestones (peer.close last).2 = [] := by
  unfold close
  split
  · rfl
  · simp only [OutboundQueue.drain, milestones_sendAll, mute.unheld, List.nil_append,
      List.flatMap_append, mute.queued]
    cases last with
    | none => simp
    | some packet => simp [silent packet rfl]

/-- Batches in a row for the client do not overtake what is queued. -/
theorem FacesClient.milestones_writeAll (faces : peer.FacesClient)
    (queued : ∀ batch ∈ batches, batch.skipQueue = false) :
    milestones (peer.writeAll batches).2.2 = [] := by
  induction batches generalizing peer with
  | nil => rfl
  | cons batch batches ih =>
    have here := queued batch List.mem_cons_self
    have first := faces.isMute.milestones_write faces.active
      (Batch.milestones_of_queued faces.isClient here)
    have rest := ih (faces.write here) fun later mem => queued later (List.mem_cons_of_mem _ mem)
    simp only [Peer.writeAll]
    split
    · exact first
    · rw [milestones_append, first, rest]
      rfl

end Peer

/-! ## Work -/

/-- From one turn to another these milestones were reached, and no other ones. -/
structure SessionTurn.Reaches (turn : SessionTurn) (reached : List Milestone)
    (after : SessionTurn) : Prop where
  tidy : after.session.Tidy
  grown : ∃ more, after.outputs = turn.outputs ++ more ∧ milestones more = reached

namespace SessionTurn

variable {turn middle after : SessionTurn} {reached others : List Milestone} {more : List Output}

/-- What is reached in two turns is reached in both together. -/
theorem Reaches.trans (here : turn.Reaches reached middle) (next : middle.Reaches others after) :
    turn.Reaches (reached ++ others) after := by
  obtain ⟨more, grown, told⟩ := here.grown
  obtain ⟨rest, last, further⟩ := next.grown
  exact ⟨next.tidy, more ++ rest, by rw [last, grown, List.append_assoc],
    by rw [milestones_append, told, further]⟩

/-- What more outputs tell is what is reached. -/
theorem Reaches.of_outputs (tidy : after.session.Tidy)
    (grown : after.outputs = turn.outputs ++ more) (told : milestones more = reached) :
    turn.Reaches reached after := ⟨tidy, more, grown, told⟩

/-- Where nothing is done, nothing is reached. -/
theorem Reaches.refl (tidy : turn.session.Tidy) : turn.Reaches [] turn :=
  .of_outputs tidy (List.append_nil _).symm rfl

/-- What reaches nothing further. -/
theorem Reaches.still (here : turn.Reaches reached middle) (next : middle.Reaches [] after) :
    turn.Reaches reached after := by
  rw [← List.append_nil reached]
  exact here.trans next

/-- What has reached nothing before. -/
theorem Reaches.andThen (here : turn.Reaches [] middle) (next : middle.Reaches reached after) :
    turn.Reaches reached after := here.trans next

end SessionTurn

/-- Work that reaches these milestones, whether it is done or fails. -/
abbrev Work.Reaches (work : Work Unit) (turn : SessionTurn) (reached : List Milestone) : Prop :=
  work.Leads turn (fun _ after => turn.Reaches reached after) fun _ after =>
    turn.Reaches reached after

namespace Work

variable {turn middle : SessionTurn} {reached : List Milestone}

/-- Work that reaches nothing, and goes on from another turn. -/
theorem Reaches.from {work : Work Unit} (work_still : work.Reaches middle [])
    (here : turn.Reaches reached middle) :
    work.Leads middle (fun _ after => turn.Reaches reached after)
      fun _ after => turn.Reaches reached after :=
  work_still.mono (fun _ _ next => here.still next) fun _ _ next => here.still next

/-- Work that goes on from a turn by which nothing was reached. -/
theorem Reaches.fromNothing {work : Work Unit} (reaches : work.Reaches middle reached)
    (here : turn.Reaches [] middle) :
    work.Leads middle (fun _ after => turn.Reaches reached after)
      fun _ after => turn.Reaches reached after :=
  reaches.mono (fun _ _ next => here.andThen next) fun _ _ next => here.andThen next

/-! ### Writing -/

/-- What is done to the client reaches what its outputs tell. -/
theorem reaches_toClient {act : Peer → Except SessionError Unit × Peer × List Output}
    (tidy : turn.session.Tidy) (faces : (act turn.session.client).2.1.FacesClient)
    (told : milestones (act turn.session.client).2.2 = reached) :
    (toClient act).Reaches turn reached := by
  have reaches : turn.Reaches reached
      ⟨{ turn.session with client := (act turn.session.client).2.1 },
        turn.outputs ++ (act turn.session.client).2.2⟩ :=
    .of_outputs ⟨faces, tidy.backend, tidy.active, tidy.pending⟩ rfl told
  rw [Reaches, leads_toClient, leads_check]
  split <;> exact reaches

/-- A batch that only passes by is no milestone. -/
theorem reaches_write_toClient {batch : Batch} (tidy : turn.session.Tidy)
    (queued : batch.skipQueue = false) :
    (toClient fun peer => peer.write batch).Reaches turn [] :=
  reaches_toClient tidy (tidy.client.write queued) (tidy.client.isMute.milestones_write
    tidy.client.active (Batch.milestones_of_queued tidy.client.isClient queued))

/-- To flush the client's queue reaches nothing. -/
theorem reaches_flush_toClient (tidy : turn.session.Tidy) : (toClient Peer.flush).Reaches turn [] :=
  reaches_toClient tidy tidy.client.flush tidy.client.isMute.milestones_flush

/-- To write batches to the client reaches nothing, if none overtakes the queue. -/
theorem reaches_writeAll {batches : List Batch} (tidy : turn.session.Tidy)
    (queued : ∀ batch ∈ batches, batch.skipQueue = false) :
    (toClient fun peer => peer.writeAll batches).Reaches turn [] :=
  reaches_toClient tidy (tidy.client.writeAll queued) (tidy.client.milestones_writeAll queued)

/-- The packets of the proxy for the client are a milestone, if the client is open. -/
theorem reaches_sendNow {packets : List Packet} (tidy : turn.session.Tidy) (filled : packets ≠ []) :
    (toClient fun peer => peer.sendNow packets).Reaches turn
      (if turn.session.client.isOpen then [.directed (Batch.ahead packets)] else []) := by
  refine reaches_toClient tidy (tidy.client.of_same Peer.sendNow_link Peer.sendNow_queue) ?_
  rw [Peer.milestones_sendNow filled, Batch.milestones_ahead tidy.client.isClient]

/-- What is done to the backend reaches nothing, if its outputs tell nothing. -/
theorem reaches_toBackend {act : Peer → Except SessionError Unit × Peer × List Output}
    (tidy : turn.session.Tidy)
    (faces : ∀ backend, turn.session.backend = some backend →
      (act backend.peer).2.1.FacesBackend ∧
        (turn.session.player.isLocked = false → (act backend.peer).2.1.queue.active = true) ∧
        milestones (act backend.peer).2.2 = []) : (toBackend act).Reaches turn [] := by
  cases on : turn.session.backend with
  | none => exact (leads_toBackend_of_none on).mpr (.refl tidy)
  | some backend =>
    obtain ⟨still, active, silent⟩ := faces backend on
    have reaches : turn.Reaches []
        ⟨{ turn.session with backend := some { backend with peer := (act backend.peer).2.1 } },
          turn.outputs ++ (act backend.peer).2.2⟩ := by
      refine .of_outputs ⟨tidy.client, ?_, ?_, tidy.pending⟩ rfl silent
      · rintro _ ⟨⟩
        exact still
      · rintro _ ⟨⟩ free
        exact active free
    rw [Reaches, leads_toBackend on, leads_check]
    split <;> exact reaches

/-- A batch of the client that only passes by is no milestone. -/
theorem reaches_write_toBackend {batch : Batch} (tidy : turn.session.Tidy)
    (free : turn.session.player.isLocked = false) (queued : batch.skipQueue = false)
    (passing : ∀ packet ∈ batch.packets, packet.initialized? = none) :
    (toBackend fun peer => peer.write batch).Reaches turn [] := by
  refine reaches_toBackend tidy fun backend on => ?_
  have faces := tidy.backend backend on
  have active := tidy.active backend on free
  obtain ⟨still, kept⟩ := faces.write queued active
  exact ⟨still, fun _ => kept, faces.isMute.milestones_write active
    (Batch.milestones_of_passing faces.isClient passing)⟩

/-- To flush the backend's queue reaches nothing. -/
theorem reaches_flush_toBackend (tidy : turn.session.Tidy) :
    (toBackend Peer.flush).Reaches turn [] := by
  refine reaches_toBackend tidy fun backend on => ?_
  have faces := tidy.backend backend on
  obtain ⟨still, same⟩ := faces.flush
  refine ⟨still, fun free => ?_, faces.isMute.milestones_flush⟩
  rw [same]
  exact tidy.active backend on free

/-- What a new backend is answered is no milestone, unless that is that the player has arrived. -/
theorem reaches_toPending {packets : List Packet} (tidy : turn.session.Tidy)
    (passing : ∀ packet ∈ packets, (BatchPacket.made packet).initialized? = none) :
    (toPending fun peer => peer.sendNow packets).Reaches turn [] := by
  have answers := @answers_sendNow turn packets tidy
  cases met : turn.session.pending with
  | none => exact (leads_toPending_of_none met).mpr (.refl tidy)
  | some pending =>
    have faces := (tidy.pending pending met).1
    have silent : milestones (pending.peer.sendNow packets).2.2 = [] := by
      by_cases empty : packets = []
      · rw [empty]
        rfl
      · rw [Peer.milestones_sendNow empty, Batch.milestones_of_passing faces.isClient (by simpa)]
        simp
    rw [leads_toPending met, leads_check] at answers
    rw [Reaches, leads_toPending met, leads_check]
    split at answers
    · exact .of_outputs answers.sends.tidy rfl silent
    · exact answers.elim

/-- The backend that a player has arrived at is told so, as long as its link is there. -/
theorem reaches_initialized {backend : Backend} (tidy : turn.session.Tidy)
    (on : turn.session.backend = some backend) (whole : backend.peer.connection.severed = false) :
    (toBackend fun peer => peer.sendNow [turn.session.player.initializedPacket]).Leads turn
      (fun _ after => turn.Reaches
        [.initialized backend.peer.link turn.session.player.mapping.backend.runtimeId] after)
      fun _ _ => False := by
  have faces := tidy.backend backend on
  have idle := @idle_sendNow_toBackend turn [turn.session.player.initializedPacket] tidy
  have result : (backend.peer.sendNow [turn.session.player.initializedPacket]).1 = .ok () := by
    rw [Peer.sendNow_result]
    simp [faces.alive, whole]
  have told : milestones (backend.peer.sendNow [turn.session.player.initializedPacket]).2.2 =
      [.initialized backend.peer.link turn.session.player.mapping.backend.runtimeId] := by
    rw [Peer.milestones_sendNow (by simp)]
    simp [Peer.isOpen, faces.alive, whole, Batch.milestones, faces.isClient,
      BatchPacket.initialized?, BatchPacket.made, Player.initializedPacket]
  rw [Idle, leads_toBackend on, leads_check, result] at idle
  rw [leads_toBackend on, leads_check, result]
  exact .of_outputs idle.chats.tidy rfl told

/-! ### Routing -/

/-- The link of the backend is closed without a milestone. -/
theorem milestones_backendClosing (tidy : turn.session.Tidy) :
    milestones turn.session.backendClosing = [] := by
  unfold Session.backendClosing
  cases on : turn.session.backend with
  | none => rfl
  | some backend => exact (tidy.backend backend on).isMute.milestones_close (by simp)

/-- The link of the new backend is closed without a milestone. -/
theorem milestones_pendingClosing (tidy : turn.session.Tidy) :
    milestones turn.session.pendingClosing = [] := by
  unfold Session.pendingClosing
  cases met : turn.session.pending with
  | none => rfl
  | some pending => exact (tidy.pending pending met).1.isMute.milestones_close (by simp)

/-- To fall back on another server reaches nothing. -/
theorem fallenBack_reaches {lost : Server} {reason : Farewell} {message : String}
    (tidy : turn.session.Tidy) : turn.Reaches [] (turn.fallenBack lost reason message) := by
  have still := (@fallenBack_idles turn lost reason message tidy).chats.tidy
  unfold SessionTurn.fallenBack at still ⊢
  dsimp only at still ⊢
  split at still
  · exact .of_outputs still rfl rfl
  · exact .of_outputs still rfl rfl

/-- To lose the backend reaches nothing. -/
theorem closed_reaches (tidy : turn.session.Tidy) : turn.Reaches []
    ⟨{ turn.session with backend := none }, turn.outputs ++ turn.session.backendClosing⟩ :=
  .of_outputs (closed_idles tidy).chats.tidy rfl (milestones_backendClosing tidy)

/-- To give a new backend up reaches nothing. -/
theorem abandoned_reaches {target : Server} {message : String} (tidy : turn.session.Tidy) :
    turn.Reaches [] (turn.abandoned target message) := by
  have adrift : turn.Reaches [] turn.adrift := by
    refine .of_outputs (adrift_idles tidy).chats.tidy (List.append_assoc _ _ _) ?_
    rw [milestones_append, milestones_pendingClosing tidy, milestones_backendClosing tidy]
    rfl
  exact adrift.still (fallenBack_reaches adrift.tidy)

/-- A transfer that fails reaches nothing. -/
theorem reaches_failTransfer {message : String} (tidy : turn.session.Tidy) :
    (failTransfer message).Reaches turn [] := by
  rw [Reaches, leads_failTransfer]
  cases destination turn.session with
  | none => exact .refl tidy
  | some target => exact abandoned_reaches tidy

/-- A backend that is lost reaches nothing. -/
theorem reaches_loseBackend {message : Option String} (tidy : turn.session.Tidy)
    (course : turn.session.Course) : (loseBackend message).Reaches turn [] :=
  have closed := closed_reaches tidy
  leads_loseBackend_of_course course (fun _ => .refl tidy) closed
    (fun _ _ _ _ => closed.still (fallenBack_reaches closed.tidy))
    fun _ _ => closed.still (abandoned_reaches closed.tidy)

/-- To call for a server reaches nothing. -/
theorem reaches_connectTo {server : Server} {source : Option Server} (tidy : turn.session.Tidy) :
    (connectTo server source).Reaches turn [] := by
  cases moving : turn.session.player.transfer with
  | some transfer => exact (leads_connectTo_of_moving (by rw [moving]; rfl)).mpr (.refl tidy)
  | none =>
    exact (leads_connectTo moving).mpr
      (.of_outputs ⟨tidy.client, tidy.backend, tidy.active, by simp⟩ rfl rfl)

/-- A server that answers the call reaches nothing yet. -/
theorem reaches_onConnected {attempt : Nat} {result : Except String (Nat × Connection)}
    (tidy : turn.session.Tidy) : (onConnected attempt result).Reaches turn [] := by
  have missed : turn.Reaches [] ⟨{ turn.session with connecting := none }, turn.outputs⟩ :=
    .of_outputs ⟨tidy.client, tidy.backend, tidy.active, tidy.pending⟩
      (List.append_nil _).symm rfl
  refine leads_onConnected (.refl tidy)
    (fun _ _ => missed.still (abandoned_reaches missed.tidy)) fun _ _ _ _ _ => ?_
  exact .of_outputs tidy.connect (List.append_nil _).symm rfl

/-- A call to another server reaches nothing yet. -/
theorem reaches_onTransfer {server : Server} (tidy : turn.session.Tidy) :
    (onTransfer server).Reaches turn [] := by
  simp only [Reaches, onTransfer, leads_bind, leads_session]
  split
  · exact reaches_connectTo tidy
  · exact .refl tidy

/-- The packets that the client is to be sent are a milestone, and it is all that changes. -/
theorem leads_sendNow_of_open {packets : List Packet} (tidy : turn.session.Tidy)
    (opened : turn.session.client.isOpen = true) (filled : packets ≠ []) :
    (toClient fun peer => peer.sendNow packets).Leads turn
      (fun _ after => turn.Reaches [.directed (Batch.ahead packets)] after ∧
        after.session.client.isOpen = true ∧
        ∃ client, after.session = { turn.session with client := client })
      fun _ _ => False := by
  have reaches := @reaches_sendNow turn packets tidy filled
  rw [if_pos opened] at reaches
  refine ((reaches.and (sends_told tidy filled)).mono ?_ ?_)
  · rintro _ after ⟨reached, -, -, client, same, stays, -⟩
    exact ⟨reached, by rw [same]; exact stays, client, same⟩
  · rintro _ after ⟨-, closed, -⟩
    simp [opened] at closed

/-- A client that is not open is sent nothing, and the session ends with it. -/
theorem leads_sendNow_of_closed {packets : List Packet} {done : Unit → SessionTurn → Prop}
    (tidy : turn.session.Tidy) (closed : turn.session.client.isOpen = false)
    (filled : packets ≠ []) :
    (toClient fun peer => peer.sendNow packets).Leads turn done fun _ after =>
      turn.Reaches [] after := by
  have reaches := @reaches_sendNow turn packets tidy filled
  rw [if_neg (by simp [closed])] at reaches
  refine ((reaches.and (sends_told tidy filled)).mono ?_ fun _ _ both => both.1)
  rintro _ after ⟨-, opened, -⟩
  simp [closed] at opened

/-- A client that is on its way in arrives. -/
theorem reaches_finishArrival {transfer : Transfer} (tidy : turn.session.Tidy)
    (free : turn.session.player.isLocked = false) (opened : turn.session.client.isOpen = true) :
    (finishArrival transfer).Reaches turn
      (arrivalMilestones turn.session.backendLink turn.session.player transfer) := by
  let ended : SessionTurn := ⟨{ turn.session with
    player := { turn.session.player with transfer := none } }, turn.outputs⟩
  have done : turn.Reaches [] ended :=
    .of_outputs (tidy.arrived free) (List.append_nil _).symm rfl
  refine leads_finishArrival.mpr ((@leads_sendNow_of_open ended _ done.tidy opened
    (by simp [Player.completionPackets])).mono ?_ fun _ _ => False.elim)
  rintro _ after ⟨told, -, client, same⟩
  have here := done.andThen told
  cases on : turn.session.backend with
  | none =>
    have gone : after.session.backend = none := by rw [same]; exact on
    simp only [gone, Option.any_none, Bool.false_eq_true, if_false]
    have still := here.still (@abandoned_reaches _ transfer.target connectionClosed here.tidy)
    simpa [arrivalMilestones, Session.backendLink, on] using still
  | some backend =>
    have there : after.session.backend = some backend := by rw [same]; exact on
    cases severed : backend.peer.connection.severed with
    | true =>
      simp only [there, Option.any_some, severed, Bool.not_true, Bool.false_eq_true, if_false]
      have still := here.still (@abandoned_reaches _ transfer.target connectionClosed here.tidy)
      simpa [arrivalMilestones, Session.backendLink, Peer.openLink, on, severed] using still
    | false =>
      simp only [there, Option.any_some, severed, Bool.not_false, if_true]
      refine ((reaches_initialized here.tidy there severed).mono ?_ fun _ _ => False.elim)
      intro _ last named
      have player : after.session.player.mapping = turn.session.player.mapping := by rw [same]
      have reported : last.Reaches (transfer.source.toList.map fun source =>
          .transferred source transfer.target) { last with outputs := last.outputs ++
            (transfer.source.toList.map fun source => .transferred source transfer.target) } :=
        .of_outputs named.tidy rfl milestones_transferred
      have all := (here.trans named).trans reported
      rw [player] at all
      simpa [arrivalMilestones, Session.backendLink, Peer.openLink, on, severed] using all

/-- Batches in a row for an open client are no milestone, and leave it open. -/
theorem leads_writeAll_of_open {batches : List Batch} (tidy : turn.session.Tidy)
    (opened : turn.session.client.isOpen = true)
    (queued : ∀ batch ∈ batches, batch.skipQueue = false) :
    (toClient fun peer => peer.writeAll batches).Leads turn
      (fun _ after => turn.Reaches [] after ∧ after.session.client.isOpen = true ∧
        ∃ client, after.session = { turn.session with client := client })
      fun _ _ => False := by
  have reaches := reaches_writeAll tidy queued
  obtain ⟨result, queue, -⟩ := @Peer.writeAll_of_open turn.session.client batches
    LinkId.isClient opened tidy.client.active queued
  rw [Reaches, leads_toClient, leads_check, result] at reaches
  rw [leads_toClient, leads_check, result]
  refine ⟨reaches, ?_, _, rfl⟩
  simpa [Peer.isOpen, queue] using opened

variable {transfer : Transfer} {pending : PendingBackend}

/-- With its acknowledgment a client arrives that is on its way in, unless it is gone. -/
theorem reaches_acknowledge_of_arriving (tidy : turn.session.Tidy)
    (moving : turn.session.player.transfer = some transfer)
    (arriving : transfer.phase = .arriving) :
    acknowledge.Reaches turn (if turn.session.client.isOpen then
      arrivalMilestones turn.session.backendLink turn.session.player transfer
      else []) := by
  have free : turn.session.player.isLocked = false := by
    simp [Player.isLocked, moving, Transfer.isLocked, arriving]
  simp only [Reaches, acknowledge, leads_bind, leads_session, moving, Option.map_some,
    Transfer.acknowledge, arriving]
  split
  next opened => exact reaches_finishArrival tidy free opened
  next closed =>
    let ended : SessionTurn := ⟨{ turn.session with
      player := { turn.session.player with transfer := none } }, turn.outputs⟩
    have done : turn.Reaches [] ended :=
      .of_outputs (tidy.arrived free) (List.append_nil _).symm rfl
    exact leads_finishArrival.mpr ((@leads_sendNow_of_closed ended _ (fun _ _ => False) done.tidy
      (by simpa using closed) (by simp [Player.completionPackets])).mono
      (fun _ _ => False.elim) fun _ _ next => done.still next)

/-- The turn in which the new backend has taken the place of the old one. -/
theorem promoted_reaches (tidy : turn.session.Tidy) (met : turn.session.pending = some pending) :
    turn.Reaches [] ⟨turn.session.promoted pending transfer, turn.outputs⟩ :=
  .of_outputs (tidy.promoted met) (List.append_nil _).symm rfl

/-- With its acknowledgment a client is sent on that is on its way out. -/
theorem leads_acknowledge_of_departing (tidy : turn.session.Tidy)
    (met : turn.session.pending = some pending)
    (moving : turn.session.player.transfer = some transfer) (away : transfer.phase = .departing)
    (opened : turn.session.client.isOpen = true) :
    acknowledge.Leads turn
      (fun _ after => turn.Reaches
          [.directed (Batch.ahead (turn.session.player.arrivalPackets transfer))] after ∧
        after.session.client.isOpen = true ∧ ∃ client, after.session =
          { turn.session.promoted pending { transfer with phase := .arriving } with
            client := client })
      fun _ _ => False := by
  simp only [acknowledge, leads_bind, leads_session, moving, Option.map_some,
    Transfer.acknowledge, away]
  have promoted := @promoted_reaches turn { transfer with phase := .arriving } pending tidy met
  refine (leads_finishDeparture met).mpr ((@leads_sendNow_of_open
    ⟨turn.session.promoted pending { transfer with phase := .arriving }, turn.outputs⟩ _
    promoted.tidy opened (by simp [Player.arrivalPackets])).mono ?_ fun _ _ => False.elim)
  rintro _ told ⟨sends, stays, client, same⟩
  refine (leads_writeAll_of_open sends.tidy stays transfer.waiting.release_queued).mono ?_
    fun _ _ => False.elim
  rintro _ after ⟨nothing, open', last, same'⟩
  exact ⟨(promoted.andThen sends).still nothing, open', last, by rw [same', same]⟩

/-- A client that is gone is not sent on. -/
theorem leads_acknowledge_of_closed {done : Unit → SessionTurn → Prop}
    (tidy : turn.session.Tidy) (met : turn.session.pending = some pending)
    (moving : turn.session.player.transfer = some transfer) (away : transfer.phase = .departing)
    (closed : turn.session.client.isOpen = false) :
    acknowledge.Leads turn done fun _ after => turn.Reaches [] after := by
  simp only [acknowledge, leads_bind, leads_session, moving, Option.map_some,
    Transfer.acknowledge, away]
  have promoted := @promoted_reaches turn { transfer with phase := .arriving } pending tidy met
  exact (leads_finishDeparture met).mpr ((leads_sendNow_of_closed promoted.tidy closed
    (by simp [Player.arrivalPackets])).mono (fun _ _ here => here) fun _ _ next =>
      promoted.still next)

end Work

end Ferry
