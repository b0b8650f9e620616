import Ferry.Proofs.Session.PhaseInvariant

/-!
# Queues that hold nothing foreign

What is queued for the client the proxy has made itself, and nothing is ever left in front of a
backend. So whatever is written besides the batches that are passed on, the proxy has made: a
packet from either side that was not passed on at once is never written later.
-/

namespace Ferry

/-- A peer that is the client, with nothing in its queue that the proxy has not made. -/
structure Peer.FacesClient (peer : Peer) : Prop where
  link : peer.link = .client
  active : peer.queue.active = true
  unheld : peer.queue.held = []
  made : AllMade peer.queue.packets

/-- A peer that is a backend, with nothing in its queue. -/
structure Peer.FacesBackend (peer : Peer) : Prop where
  link : ∃ number, peer.link = .backend number
  empty : peer.queue.packets = []
  unheld : peer.queue.held = []
  alive : peer.queue.dead = false

/-- A session whose queues hold nothing foreign. The queue in front of a backend is stopped
only while the client is on its way out. -/
structure Session.Tidy (session : Session) : Prop where
  client : session.client.FacesClient
  backend : ∀ backend, session.backend = some backend → backend.peer.FacesBackend
  active : ∀ backend, session.backend = some backend → session.player.isLocked = false →
    backend.peer.queue.active = true
  pending : ∀ pending, session.pending = some pending →
    pending.peer.FacesBackend ∧ pending.peer.queue.active = true

namespace Peer

variable {peer : Peer}

/-- Only the link and the queue make a peer the client. -/
theorem FacesClient.of_same {other : Peer} (faces : peer.FacesClient)
    (link : other.link = peer.link) (queue : other.queue = peer.queue) : other.FacesClient := by
  constructor
  · exact link.trans faces.link
  · rw [queue, faces.active]
  · rw [queue, faces.unheld]
  · rw [queue]
    exact faces.made

/-- Only the link and the queue make a peer a backend. -/
theorem FacesBackend.of_same {other : Peer} (faces : peer.FacesBackend)
    (link : other.link = peer.link) (queue : other.queue = peer.queue) :
    other.FacesBackend := by
  constructor
  · rw [link]
    exact faces.link
  · rw [queue, faces.empty]
  · rw [queue, faces.unheld]
  · rw [queue, faces.alive]

/-- What happens to the queue of a peer that a batch is written to. -/
theorem write_queue_cases {batch : Batch} (queued : batch.skipQueue = false)
    (active : peer.queue.active = true) : (peer.write batch).2.1.queue = peer.queue ∨
      (peer.write batch).2.1.queue = { peer.queue with packets := [] } := by
  rw [write_queue_of_active queued active]
  split
  · exact .inl rfl
  · exact .inr rfl

/-- Writing to the client leaves in its queue what the proxy has made. -/
theorem FacesClient.write {batch : Batch} (faces : peer.FacesClient)
    (queued : batch.skipQueue = false) : (peer.write batch).2.1.FacesClient := by
  rcases write_queue_cases queued faces.active with same | emptied
  · exact faces.of_same write_link same
  · constructor
    · exact write_link.trans faces.link
    · rw [emptied, faces.active]
    · rw [emptied, faces.unheld]
    · rw [emptied]
      exact allMade_nil

/-- Writing to a backend leaves nothing in its queue. -/
theorem FacesBackend.write {batch : Batch} (faces : peer.FacesBackend)
    (queued : batch.skipQueue = false) (active : peer.queue.active = true) :
    (peer.write batch).2.1.FacesBackend ∧ (peer.write batch).2.1.queue.active = true := by
  have same : (peer.write batch).2.1.queue = peer.queue := by
    rcases write_queue_cases queued active with same | emptied
    · exact same
    · rw [emptied, ← faces.empty]
  exact ⟨faces.of_same write_link same, by rw [same, active]⟩

/-- Writing batches to the client leaves in its queue what the proxy has made. -/
theorem FacesClient.writeAll {batches : List Batch} (faces : peer.FacesClient)
    (queued : ∀ batch ∈ batches, batch.skipQueue = false) :
    (peer.writeAll batches).2.1.FacesClient := by
  induction batches generalizing peer with
  | nil => exact faces
  | cons batch batches ih =>
    have here := faces.write (queued batch List.mem_cons_self)
    simp only [Peer.writeAll]
    split
    · exact here
    · exact ih here fun later mem => queued later (List.mem_cons_of_mem _ mem)

/-- Flushing leaves in the client's queue what the proxy has made. -/
theorem FacesClient.flush (faces : peer.FacesClient) : peer.flush.2.1.FacesClient := by
  have queue := peer.flush_queue
  split at queue
  · exact faces.of_same flush_link queue
  · constructor
    · exact flush_link.trans faces.link
    · rw [queue, faces.active]
    · rw [queue, faces.unheld]
    · rw [queue]
      exact allMade_nil

/-- There is nothing to flush to a backend. -/
theorem FacesBackend.flush (faces : peer.FacesBackend) :
    peer.flush.2.1.FacesBackend ∧ peer.flush.2.1.queue = peer.queue := by
  have same : peer.flush.2.1.queue = peer.queue := by
    rw [flush_queue]
    split
    · rfl
    · rw [← faces.empty]
  exact ⟨faces.of_same flush_link same, same⟩

/-- Nothing is said on the link of a backend that is given up. -/
theorem FacesBackend.close_quiet (faces : peer.FacesBackend) {on : LinkId → Bool} :
    heardOn on (peer.close none).2 = [] := by
  rw [heardOn_close, faces.empty, faces.unheld]
  simp

/-- A client that is closed has nothing foreign in its queue. -/
theorem FacesClient.close {last : Option Packet} (faces : peer.FacesClient) :
    (peer.close last).1.FacesClient := by
  have queue := @close_queue peer last
  constructor
  · exact close_link.trans faces.link
  · rw [queue]
    exact faces.active
  · rw [queue]
  · rw [queue]
    exact allMade_nil

/-- A peer that is queued another packet of the proxy. -/
def pushing (peer : Peer) (packet : Packet) : Peer :=
  { peer with queue := (peer.queue.push (BatchPacket.made packet)).2.1 }

/-- A packet of the proxy may be queued for the client. -/
theorem FacesClient.pushing {packet : Packet} (faces : peer.FacesClient) :
    (peer.pushing packet).FacesClient := by
  have own : AllMade [BatchPacket.made packet] := List.forall_mem_singleton.mpr ⟨packet, rfl⟩
  unfold Peer.pushing OutboundQueue.push
  split
  · exact ⟨faces.link, faces.active, faces.unheld, faces.made⟩
  · split
    · exact ⟨faces.link, faces.active, faces.unheld, allMade_append.mpr ⟨faces.made, own⟩⟩
    · exact ⟨faces.link, faces.active, faces.unheld, allMade_nil⟩

/-- A peer that is open with a packet more was open before. -/
theorem isOpen_of_pushing {packet : Packet} (opened : (peer.pushing packet).isOpen = true) :
    peer.isOpen = true := by
  unfold Peer.pushing OutboundQueue.push at opened
  split at opened
  · exact opened
  · split at opened
    · exact opened
    · simp [isOpen, OutboundQueue.overflow] at opened

/-- What is done to a peer leaves its queue alone, and says only what the proxy has made. -/
structure SaysOwn (act : Peer → Except SessionError Unit × Peer × List Output) (peer : Peer) :
    Prop where
  link : (act peer).2.1.link = peer.link
  queue : (act peer).2.1.queue = peer.queue
  made : ∀ on, AllMade (heardOn on (act peer).2.2)

/-- What is sent at once the proxy has made. -/
theorem saysOwn_sendNow {packets : List Packet} :
    SaysOwn (fun peer => peer.sendNow packets) peer := by
  refine ⟨sendNow_link, sendNow_queue, fun on => ?_⟩
  rw [heardOn_sendNow]
  split <;> simp

/-- Flushing says nothing to a backend. -/
theorem FacesBackend.saysOwn_flush (faces : peer.FacesBackend) : SaysOwn Peer.flush peer := by
  refine ⟨flush_link, faces.flush.2, fun on => ?_⟩
  rw [heardOn_flush, faces.empty]
  simp

/-- The client is on the client's link. -/
theorem FacesClient.isClient (faces : peer.FacesClient) : peer.link.isClient = true := by
  simp [LinkId.isClient, faces.link]

/-- A backend is on a link to backends. -/
theorem FacesBackend.isBackend (faces : peer.FacesBackend) : peer.link.isBackend = true := by
  obtain ⟨number, link⟩ := faces.link
  simp [LinkId.isBackend, LinkId.isClient, link]

/-- A backend is not on the client's link. -/
theorem FacesBackend.isClient (faces : peer.FacesBackend) : peer.link.isClient = false := by
  obtain ⟨number, link⟩ := faces.link
  simp [LinkId.isClient, link]

end Peer

namespace Session

variable {session : Session}

/-- A session stays tidy with a new backend that a connection was called for to. -/
theorem Tidy.connect {number : Nat} {connection : Connection} {arrival : Arrival}
    (tidy : session.Tidy) : ({ session with
      connecting := none
      pending := some ⟨session.backendPeer number connection, arrival⟩ } : Session).Tidy := by
  refine ⟨tidy.client, tidy.backend, tidy.active, ?_⟩
  rintro _ ⟨⟩
  exact ⟨⟨⟨_, rfl⟩, rfl, rfl, rfl⟩, rfl⟩

/-- A session stays tidy with whatever leaves alone what waits for a new backend. -/
theorem Tidy.withPending {pending : PendingBackend} {peer : Peer} (tidy : session.Tidy)
    (met : session.pending = some pending) (link : peer.link = pending.peer.link)
    (queue : peer.queue = pending.peer.queue) :
    ({ session with pending := some { pending with peer := peer } } : Session).Tidy := by
  obtain ⟨faces, active⟩ := tidy.pending pending met
  refine ⟨tidy.client, tidy.backend, tidy.active, ?_⟩
  rintro _ ⟨⟩
  exact ⟨faces.of_same link queue, by rw [queue, active]⟩

/-- A session stays tidy when a client arrives that was let go of before. -/
theorem Tidy.arrived (tidy : session.Tidy) (free : session.player.isLocked = false) :
    ({ session with player := { session.player with transfer := none } } : Session).Tidy :=
  ⟨tidy.client, tidy.backend, fun backend on _ => tidy.active backend on free, tidy.pending⟩

/-- A session stays tidy when the new backend takes the place of the old one. -/
theorem Tidy.promoted {pending : PendingBackend} {transfer : Transfer} (tidy : session.Tidy)
    (met : session.pending = some pending) : (session.promoted pending transfer).Tidy := by
  obtain ⟨faces, active⟩ := tidy.pending pending met
  refine ⟨tidy.client, ?_, ?_, ?_⟩
  · rintro _ ⟨⟩
    exact faces
  · rintro _ ⟨⟩ -
    exact active
  · rintro _ ⟨⟩

end Session

/-! ## What work passes on -/

/-- Whether a session has no backend but on a link. -/
def Session.At (session : Session) (link : LinkId) : Prop :=
  ∀ backend, session.backend = some backend → backend.peer.link = link

/-- A session that another one has come from, without its client being locked or its backend
being another one. -/
structure Session.Keeps (session other : Session) : Prop where
  free : session.player.isLocked = false → other.player.isLocked = false
  home : ∀ link, session.At link → other.At link

namespace Session

/-- A session keeps its backend where nothing is done. -/
theorem Keeps.refl (session : Session) : session.Keeps session := ⟨id, fun _ => id⟩

/-- A session that keeps its backend twice keeps it. -/
theorem Keeps.trans {session middle other : Session} (here : session.Keeps middle)
    (next : middle.Keeps other) : session.Keeps other :=
  ⟨next.free ∘ here.free, fun link => next.home link ∘ here.home link⟩

/-- A session whose client is free, with no backend but on a link. -/
structure StaysAt (session : Session) (link : LinkId) : Prop where
  free : session.player.isLocked = false
  home : session.At link

/-- A session that keeps its backend stays on its link. -/
theorem Keeps.staysAt {session other : Session} {link : LinkId} (keeps : session.Keeps other)
    (stays : session.StaysAt link) : other.StaysAt link :=
  ⟨keeps.free stays.free, keeps.home link stays.home⟩

/-- A session that has lost its backend. -/
theorem Keeps.adrift {session other : Session} (gone : other.backend = none)
    (free : session.player.isLocked = false → other.player.isLocked = false) :
    session.Keeps other := by
  refine ⟨free, fun link _ backend on => ?_⟩
  cases gone.symm.trans on

/-- A session whose backend has only been spoken to. -/
theorem Keeps.spoken {session other : Session} {backend : Backend} {peer : Peer}
    (on : session.backend = some backend)
    (still : other.backend = some { backend with peer := peer })
    (link : peer.link = backend.peer.link)
    (free : session.player.isLocked = false → other.player.isLocked = false) :
    session.Keeps other := by
  refine ⟨free, fun _ here there since => ?_⟩
  cases still.symm.trans since
  exact link.trans (here backend on)

end Session

/-- From one turn to another some packets were passed on to the client, and some to backends,
and all else that was written the proxy has made itself. No client comes back that was gone. -/
structure SessionTurn.Passes (turn : SessionTurn) (inward outward : List BatchPacket)
    (after : SessionTurn) : Prop where
  tidy : after.session.Tidy
  opened : after.session.client.isOpen = true → turn.session.client.isOpen = true
  adds : ∃ more, after.outputs = turn.outputs ++ more ∧
    Amid inward (heardOn LinkId.isClient more) ∧ Amid outward (heardOn LinkId.isBackend more)

namespace SessionTurn

variable {turn middle after : SessionTurn} {inward outward : List BatchPacket}

/-- Where nothing is done, nothing is passed on. -/
theorem Passes.refl (tidy : turn.session.Tidy) : turn.Passes [] [] turn :=
  ⟨tidy, id, [], by simp⟩

/-- What is passed on in two turns is passed on in both together. -/
theorem Passes.trans {further beyond : List BatchPacket} (here : turn.Passes inward outward middle)
    (next : middle.Passes further beyond after) :
    turn.Passes (inward ++ further) (outward ++ beyond) after := by
  obtain ⟨more, grown, toClient, toBackends⟩ := here.adds
  obtain ⟨rest, last, onClient, onBackends⟩ := next.adds
  refine ⟨next.tidy, here.opened ∘ next.opened, more ++ rest, ?_, ?_, ?_⟩
  · rw [last, grown, List.append_assoc]
  · rw [heardOn_append]
    exact toClient.append onClient
  · rw [heardOn_append]
    exact toBackends.append onBackends

/-- Nothing is passed on by outputs that are no frames. -/
theorem Passes.silent {more : List Output} (tidy : after.session.Tidy)
    (alive : after.session.client.isOpen = turn.session.client.isOpen)
    (grown : after.outputs = turn.outputs ++ more) (silent : ∀ on, heardOn on more = []) :
    turn.Passes [] [] after := by
  refine ⟨tidy, fun opened => alive ▸ opened, more, grown, ?_, ?_⟩
  · rw [silent, amid_nil]
    exact allMade_nil
  · rw [silent, amid_nil]
    exact allMade_nil

/-- From one turn to another nothing was passed on, no client was locked, and no backend has
taken the place of another one. -/
structure Proceeds (turn after : SessionTurn) : Prop where
  passes : turn.Passes [] [] after
  keeps : turn.session.Keeps after.session

/-- Where nothing is done, the session proceeds. -/
theorem Proceeds.refl (tidy : turn.session.Tidy) : turn.Proceeds turn := ⟨.refl tidy, .refl _⟩

/-- A session that proceeds twice proceeds. -/
theorem Proceeds.trans (here : turn.Proceeds middle) (next : middle.Proceeds after) :
    turn.Proceeds after :=
  ⟨here.passes.trans next.passes, here.keeps.trans next.keeps⟩

/-- Outputs that nobody hears pass nothing on. -/
theorem Proceeds.silent {more : List Output} (tidy : after.session.Tidy)
    (alive : after.session.client.isOpen = turn.session.client.isOpen)
    (keeps : turn.session.Keeps after.session)
    (grown : after.outputs = turn.outputs ++ more) (silent : ∀ on, heardOn on more = []) :
    turn.Proceeds after :=
  ⟨.silent tidy alive grown silent, keeps⟩

end SessionTurn

/-- Work that passes nothing on, whether it is done or fails. -/
abbrev Work.Quiet {α : Type} (work : Work α) (turn : SessionTurn) : Prop :=
  work.Leads turn (fun _ after => turn.Proceeds after) fun _ after => turn.Proceeds after

namespace Work

variable {turn : SessionTurn}

/-- Quiet work that goes on from another turn, to which nothing was passed on. -/
theorem Quiet.from {α : Type} {work : Work α} {middle : SessionTurn} (quiet : work.Quiet middle)
    (here : turn.Proceeds middle) :
    work.Leads middle (fun _ after => turn.Proceeds after) fun _ after => turn.Proceeds after :=
  quiet.mono (fun _ _ next => here.trans next) fun _ _ next => here.trans next

/-! ## Writing -/

/-- Packets of the proxy for the client. -/
theorem told_passes {packets : List Packet} (tidy : turn.session.Tidy) :
    turn.Passes [] [] (turn.told packets) := by
  refine ⟨⟨?_, tidy.backend, tidy.active, tidy.pending⟩, ?_,
    (turn.session.client.sendNow packets).2.2, rfl, ?_, ?_⟩
  · exact tidy.client.of_same Peer.sendNow_link Peer.sendNow_queue
  · simp [SessionTurn.told, Peer.isOpen]
  · exact amid_nil.mpr (Peer.saysOwn_sendNow.made _)
  · exact amid_nil.mpr (Peer.saysOwn_sendNow.made _)

/-- To send packets of the proxy to the client passes nothing on. -/
theorem quiet_sendNow {packets : List Packet} (tidy : turn.session.Tidy) :
    (toClient fun peer => peer.sendNow packets).Quiet turn := by
  have proceeds : turn.Proceeds (turn.told packets) :=
    ⟨told_passes tidy, id, fun _ => id⟩
  rw [Quiet, leads_toClient, leads_check]
  cases (turn.session.client.sendNow packets).1 with
  | error fault => exact proceeds
  | ok done => exact proceeds

/-- Whatever a backend is told that the proxy has made. -/
theorem quiet_toBackend {act : Peer → Except SessionError Unit × Peer × List Output}
    (tidy : turn.session.Tidy)
    (own : ∀ backend, turn.session.backend = some backend → Peer.SaysOwn act backend.peer) :
    (toBackend act).Quiet turn := by
  cases on : turn.session.backend with
  | none => exact (leads_toBackend_of_none on).mpr (.refl tidy)
  | some backend =>
    have faces := tidy.backend backend on
    have speaks := own backend on
    have passes : turn.Proceeds
        ⟨{ turn.session with backend := some { backend with peer := (act backend.peer).2.1 } },
          turn.outputs ++ (act backend.peer).2.2⟩ := by
      refine ⟨⟨⟨tidy.client, ?_, ?_, tidy.pending⟩, id, (act backend.peer).2.2, rfl, ?_, ?_⟩,
        .spoken on rfl speaks.link id⟩
      · rintro _ ⟨⟩
        exact faces.of_same speaks.link speaks.queue
      · rintro _ ⟨⟩ free
        rw [speaks.queue]
        exact tidy.active backend on free
      · exact amid_nil.mpr (speaks.made LinkId.isClient)
      · exact amid_nil.mpr (speaks.made LinkId.isBackend)
    rw [Quiet, leads_toBackend on, leads_check]
    cases tolerate (act backend.peer).1 with
    | error fault => exact passes
    | ok done => exact passes

/-- What the proxy itself says to the new backend passes nothing on. -/
theorem quiet_toPending {act : Peer → Except SessionError Unit × Peer × List Output}
    (tidy : turn.session.Tidy)
    (own : ∀ pending, turn.session.pending = some pending → Peer.SaysOwn act pending.peer) :
    (toPending act).Quiet turn := by
  cases met : turn.session.pending with
  | none => exact (leads_toPending_of_none met).mpr (.refl tidy)
  | some pending =>
    have speaks := own pending met
    have passes : turn.Proceeds
        ⟨{ turn.session with pending := some { pending with peer := (act pending.peer).2.1 } },
          turn.outputs ++ (act pending.peer).2.2⟩ := by
      refine ⟨⟨tidy.withPending met speaks.link speaks.queue, id, (act pending.peer).2.2, rfl,
        ?_, ?_⟩, id, fun _ => id⟩
      · exact amid_nil.mpr (speaks.made LinkId.isClient)
      · exact amid_nil.mpr (speaks.made LinkId.isBackend)
    rw [Quiet, leads_toPending met, leads_check]
    cases tolerate (act pending.peer).1 with
    | error fault => exact passes
    | ok done => exact passes

/-- An answer passes nothing on. -/
theorem quiet_reply {source : BatchSource} {packet : Packet} (tidy : turn.session.Tidy) :
    (reply source packet).Quiet turn := by
  unfold reply
  cases source with
  | client => exact quiet_sendNow tidy
  | backend => exact quiet_toBackend tidy fun _ _ => Peer.saysOwn_sendNow
  | pending => exact quiet_toPending tidy fun _ _ => Peer.saysOwn_sendNow

/-! ## Routing -/

/-- A backend that is given up says nothing. -/
theorem backendClosing_quiet (tidy : turn.session.Tidy) (on : LinkId → Bool) :
    heardOn on turn.session.backendClosing = [] := by
  unfold Session.backendClosing
  cases there : turn.session.backend with
  | none => rfl
  | some backend => exact (tidy.backend backend there).close_quiet

/-- Nobody hears that the new backend's link is closed. -/
theorem pendingClosing_quiet (tidy : turn.session.Tidy) (on : LinkId → Bool) :
    heardOn on turn.session.pendingClosing = [] := by
  unfold Session.pendingClosing
  cases met : turn.session.pending with
  | none => rfl
  | some pending => exact (tidy.pending pending met).1.close_quiet

/-- To fall back on another server passes nothing on. -/
theorem fallenBack_proceeds {lost : Server} {reason : Farewell} {message : String}
    (tidy : turn.session.Tidy) : turn.Proceeds (turn.fallenBack lost reason message) := by
  unfold SessionTurn.fallenBack
  dsimp only
  split
  · exact .silent ⟨tidy.client, tidy.backend, tidy.active, by simp⟩ rfl ⟨id, fun _ => id⟩ rfl
      fun _ => rfl
  · exact .silent ⟨tidy.client, tidy.backend, tidy.active, tidy.pending⟩ rfl ⟨id, fun _ => id⟩ rfl
      fun _ => rfl

/-- To take a player from all backends passes nothing on. -/
theorem adrift_proceeds (tidy : turn.session.Tidy) : turn.Proceeds turn.adrift := by
  refine .silent ⟨tidy.client, by simp [SessionTurn.adrift], by simp [SessionTurn.adrift],
    by simp [SessionTurn.adrift]⟩ rfl (.adrift rfl fun _ => rfl)
    (List.append_assoc _ _ _) fun on => ?_
  rw [heardOn_append, pendingClosing_quiet tidy, backendClosing_quiet tidy]
  rfl

/-- To give a transfer up passes nothing on. -/
theorem abandoned_proceeds {target : Server} {message : String} (tidy : turn.session.Tidy) :
    turn.Proceeds (turn.abandoned target message) :=
  have adrift := adrift_proceeds tidy
  adrift.trans (fallenBack_proceeds adrift.passes.tidy)

/-- A transfer that fails passes nothing on. -/
theorem quiet_failTransfer {message : String} (tidy : turn.session.Tidy) :
    (failTransfer message).Quiet turn := by
  rw [Quiet, leads_failTransfer]
  cases destination turn.session with
  | none => exact .refl tidy
  | some target => exact abandoned_proceeds tidy

/-- To close the backend's link passes nothing on. -/
theorem closed_proceeds (tidy : turn.session.Tidy) : turn.Proceeds
    ⟨{ turn.session with backend := none }, turn.outputs ++ turn.session.backendClosing⟩ :=
  .silent ⟨tidy.client, by simp, by simp, tidy.pending⟩ rfl (.adrift rfl id) rfl
    (backendClosing_quiet tidy)

/-- A backend that is lost passes nothing on. -/
theorem quiet_loseBackend {message : Option String} (tidy : turn.session.Tidy)
    (course : turn.session.Course) : (loseBackend message).Quiet turn :=
  have closed := closed_proceeds tidy
  leads_loseBackend_of_course course (fun _ => .refl tidy) closed
    (fun _ _ _ _ => closed.trans (fallenBack_proceeds closed.passes.tidy))
    fun _ _ => closed.trans (abandoned_proceeds closed.passes.tidy)

/-- A call for a server passes nothing on. -/
theorem quiet_connectTo {server : Server} {source : Option Server} (tidy : turn.session.Tidy) :
    (connectTo server source).Quiet turn := by
  cases moving : turn.session.player.transfer with
  | some transfer => exact (leads_connectTo_of_moving (by rw [moving]; rfl)).mpr (.refl tidy)
  | none =>
    exact (leads_connectTo moving).mpr (.silent
      ⟨tidy.client, tidy.backend, tidy.active, by simp⟩ rfl ⟨id, fun _ => id⟩ rfl fun _ => rfl)

/-- The client is sent away from the old backend with packets of the proxy only. -/
theorem quiet_startTransfer {teardown : List Packet} (tidy : turn.session.Tidy)
    (locked : ∀ transfer, turn.session.player.transfer = some transfer →
      transfer.isLocked = true) : (startTransfer teardown).Quiet turn := by
  cases moving : turn.session.player.transfer with
  | none => exact (leads_startTransfer_of_none moving).mpr (.refl tidy)
  | some transfer =>
    have setOff : turn.Proceeds
        ⟨turn.session.setOff transfer, turn.outputs ++ [.packsRebuilt]⟩ := by
      refine .silent ⟨tidy.client, ?_, ?_, tidy.pending⟩ rfl ⟨id, fun _ here backend on => ?_⟩ rfl
        fun _ => rfl
      · rintro backend on
        obtain ⟨there, was, rfl⟩ := Option.map_eq_some_iff.mp on
        obtain ⟨link, empty, unheld, alive⟩ := tidy.backend there was
        exact ⟨link, empty, unheld, alive⟩
      · intro backend on free
        simp [Session.setOff, Player.isLocked, moving, locked transfer moving] at free
      · obtain ⟨there, was, rfl⟩ := Option.map_eq_some_iff.mp on
        exact here there was
    exact (leads_startTransfer moving).mpr ((quiet_sendNow setOff.passes.tidy).from setOff)

/-- A client that has arrived is told so, and so is the new backend, by packets of the
proxy. -/
theorem quiet_finishArrival {transfer : Transfer} (tidy : turn.session.Tidy)
    (free : turn.session.player.isLocked = false) : (finishArrival transfer).Quiet turn := by
  have done : turn.Proceeds ⟨{ turn.session with
      player := { turn.session.player with transfer := none } }, turn.outputs⟩ :=
    .silent (tidy.arrived free) rfl ⟨fun _ => rfl, fun _ => id⟩ (List.append_nil _).symm
      fun _ => rfl
  refine leads_finishArrival.mpr
    (((quiet_sendNow done.passes.tidy).from done).mono ?_ fun _ _ fault => fault)
  intro _ after told
  split
  · refine ((quiet_toBackend told.passes.tidy fun _ _ => Peer.saysOwn_sendNow).from told).mono ?_
      fun _ _ fault => fault
    intro _ last here
    refine here.trans (.silent here.passes.tidy rfl (.refl _) rfl fun on => ?_)
    cases transfer.source <;> rfl
  · exact told.trans (abandoned_proceeds told.passes.tidy)

end Work

end Ferry
