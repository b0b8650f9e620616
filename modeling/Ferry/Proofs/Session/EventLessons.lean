import Ferry.Proofs.Bridge.Crossing
import Ferry.Proofs.Session.ClientChatter

/-!
# What is learned from an event

There are few events that change where the client is and what it shows, or tell the client of it: a
batch of the backend that it is on, a batch of a new backend, and the word of the client that it has
left the old one. For each of them, what is known about the player afterwards, and the batches that
the client hears. All else that it hears is chatter.
-/

namespace Ferry

/-- A frame with which a new backend spawns a player who was logging in there. -/
structure Session.Spawns (session : Session) (frame : Bytes) (pending : PendingBackend)
    (batch : Batch) : Prop where
  met : session.pending = some pending
  login : pending.arrival.started = false
  decoded : (pending.peer.connection.decode frame).1 = .ok batch
  spawned : (StartGame.first pending.peer.connection.version batch.packets).isSome = true

/-- Whether a backend refuses the player with a batch before it spawns it. -/
def PendingBackend.refusesFirst (pending : PendingBackend) (batch : Batch) : Bool :=
  let version := pending.peer.connection.version
  (StartGame.ahead version batch.packets).any (BatchPacket.isRefusal version)

namespace Session

/-- The batches that the client hears of a batch from the backend that it is on. -/
def relayedBatches (session : Session) (backend : Backend) (batch : Batch) : List Batch :=
  let result := session.fromBackend backend batch
  if result.batch.packets.isEmpty then []
  else session.client.queue.queuedBatch ++ [result.batch]

/-- The batch with which a new backend that spawns the player sends the client away. -/
def departureBatch (session : Session) (pending : PendingBackend) (batch : Batch)
    (transfer : Transfer) : Batch :=
  Batch.ahead (session.player.scene.teardown ++
    (session.keptFromPending pending batch).1.departurePackets transfer)

/-- The batches that the client hears once it has said that it has left the old backend. -/
def arrivalBatches (session : Session) (frame : Bytes) (transfer : Transfer) : List Batch :=
  let released := transfer.waiting.release.1
  Batch.ahead ((session.playerAfterClient frame).arrivalPackets transfer) ::
    ((if released.isEmpty then [] else session.client.queue.queuedBatch) ++ released)

/-- What is known about the player after an event, but for transfers that have ended, and the
batches that the client hears, but for chatter. -/
inductive Learns (session : Session) : Event → Player → List Batch → Prop
  /-- Nothing has come that is to wait for the client. -/
  | nothing {event : Event} (still : session.arrived (.event event) = []) :
      Learns session event session.player []
  /-- The backend that the client is on has sent a batch. -/
  | relayed {frame : Bytes} {backend : Backend} {batch : Batch}
      (on : session.backend = some backend) (free : session.player.isLocked = false)
      (decoded : (backend.peer.connection.decode frame).1 = .ok batch) :
      Learns session (.backend (some frame)) (session.fromBackend backend batch).player
        (session.relayedBatches backend batch)
  /-- A new backend that had spawned the player before has sent a batch. -/
  | waited {frame : Bytes} {pending : PendingBackend} {batch : Batch}
      (met : session.pending = some pending) (game : pending.arrival.started = true)
      (decoded : (pending.peer.connection.decode frame).1 = .ok batch) :
      Learns session (.pending (some frame)) (session.keptFromPending pending batch).1 []
  /-- A new backend has refused the player and then spawned it. -/
  | refused {frame : Bytes} {pending : PendingBackend} {batch : Batch}
      (spawns : session.Spawns frame pending batch)
      (refuses : pending.refusesFirst batch = true) :
      Learns session (.pending (some frame))
        { (session.keptFromPending pending batch).1 with transfer := none } []
  /-- A new backend has spawned the player. -/
  | sentAway {frame : Bytes} {pending : PendingBackend} {batch : Batch} {transfer : Transfer}
      (spawns : session.Spawns frame pending batch)
      (accepts : pending.refusesFirst batch = false)
      (opened : session.client.isOpen = true)
      (moving : (session.keptFromPending pending batch).1.transfer = some transfer)
      (away : transfer.phase = .departing) :
      Learns session (.pending (some frame))
        { (session.keptFromPending pending batch).1 with
          dimension := transfer.temporaryDimension }
        [session.departureBatch pending batch transfer]
  /-- The client has left the old backend. -/
  | left {frame : Bytes} {pending : PendingBackend} {transfer : Transfer}
      (met : session.pending = some pending)
      (moving : session.player.transfer = some transfer) (away : transfer.phase = .departing)
      (said : session.askedByClient frame ≠ []) (opened : session.client.isOpen = true) :
      Learns session (.client (some frame))
        { session.player with
          dimension := transfer.targetDimension
          transfer := some { transfer with
            phase := .arriving
            waiting := transfer.waiting.release.2 } }
        (session.arrivalBatches frame transfer)

/-- What the client may hear of an event, but for chatter, even if the session ends with it. -/
def MayHear (session : Session) (event : Event) (batches : List Batch) : Prop :=
  batches = [] ∨ ∃ player, session.Learns event player batches

variable {session : Session} {pending : PendingBackend} {batch : Batch} {frame : Bytes}

/-- What a batch asks for that spawns the player. -/
theorem Spawns.asked (spawns : session.Spawns frame pending batch) :
    ∃ before behind, session.askedByPending pending batch =
        before ++ .transferStarted session.player.scene.teardown :: behind ∧
      (∀ action ∈ before, action.isOfArrival = true ∧ action.isStart = false) ∧
      (∀ action ∈ behind, action.isOfArrival = true ∧ action.isStart = false) ∧
      ((∃ message, .transferFailed message ∈ before) ↔ pending.refusesFirst batch = true) := by
  obtain ⟨⟨start, rest⟩, spawned⟩ := Option.isSome_iff_exists.mp spawns.spawned
  obtain ⟨before, behind, actions, quiet, further, refusal⟩ :=
    @Bridge.foldl_cross_spawn pending.peer.connection.version
      ⟨pending.arrival, session.player, [], BridgeReport.zero, []⟩ start batch.packets rest
      spawns.login spawned
  have asked : (session.fromPending pending batch).actions =
      before ++ .transferStarted session.player.scene.teardown :: behind := actions
  refine ⟨before, behind ++ (session.keptFromPending pending batch).2, ?_, quiet, ?_, refusal⟩
  · rw [askedByPending, asked, List.append_assoc, List.cons_append]
  · refine List.forall_mem_append.mpr ⟨further, fun action mem => ?_⟩
    obtain ⟨message, rfl⟩ := Work.keptFromPending_actions mem
    exact ⟨rfl, rfl⟩

/-- A batch that spawns the player goes on as one of a backend that had spawned it before. -/
theorem Spawns.crossed (spawns : session.Spawns frame pending batch) :
    ∃ start rest, rest ⊆ batch.packets ∧
      let game := Bridge.process Handler.arrival .clientbound pending.peer.connection.version
        { pending.arrival with started := true } (pending.arrival.spawn session.player start)
        { batch with packets := rest }
      (session.fromPending pending batch).player = game.player ∧
        (session.fromPending pending batch).batch.packets = game.batch.packets := by
  obtain ⟨⟨start, rest⟩, spawned⟩ := Option.isSome_iff_exists.mp spawns.spawned
  have crossed := @Bridge.foldl_cross_login pending.peer.connection.version
    ⟨pending.arrival, session.player, [], BridgeReport.zero, []⟩ batch.packets spawns.login
  rw [spawned] at crossed
  refine ⟨start, rest, StartGame.first_subset spawned,
    congrArg (fun passage => passage.2.1) crossed, ?_⟩
  rw [Bridge.process_packets]
  unfold fromPending
  rw [Bridge.process_packets]
  exact congrArg (fun passage => passage.2.2) crossed

/-- Nothing that a new backend sends moves the client. -/
theorem keptFromPending_dimension :
    (session.keptFromPending pending batch).1.dimension = session.player.dimension := by
  have processed : (session.fromPending pending batch).player.dimension =
      session.player.dimension := by
    refine Bridge.process_keeps (fun _ player _ => player.dimension = session.player.dimension)
      ?_ (fun _ _ _ _ same => same) rfl
    intro state player actions packet same
    refine Eq.trans ?_ same
    simp only [Handler.arrival]
    split
    · unfold Arrival.handleGame
      cases packet <;> rfl
    · have login := congrArg (fun pair => pair.2.dimension)
        (state.handleLogin_cancels player packet).2
      refine login.trans ?_
      cases packet <;> rfl
  unfold keptFromPending
  dsimp only
  split
  · rw [Work.keepWaiting_player]
    exact processed
  · exact processed

/-- As long as a new backend has not spawned the player, nothing about it changes, and no transfer
starts. -/
theorem keptFromPending_of_login (login : pending.arrival.started = false)
    (unspawned : StartGame.first pending.peer.connection.version batch.packets = none) :
    (session.keptFromPending pending batch).1 = session.player ∧
      ∀ action ∈ session.askedByPending pending batch,
        action.isOfArrival = true ∧ action.isStart = false := by
  have crossed := @Bridge.foldl_cross_login pending.peer.connection.version
    ⟨pending.arrival, session.player, [], BridgeReport.zero, []⟩ batch.packets login
  rw [unspawned] at crossed
  obtain ⟨state, rest⟩ := Prod.mk.inj crossed
  have state : (session.fromPending pending batch).state = pending.arrival := state
  have player : (session.fromPending pending batch).player = session.player :=
    (Prod.mk.inj rest).1
  have kept : session.keptFromPending pending batch = (session.player, []) := by
    simp [keptFromPending, state, login, player]
  refine ⟨by rw [kept], ?_⟩
  rw [askedByPending, kept, List.append_nil]
  exact (Work.fromPending_progress session pending batch).unstarted (by rw [state]; exact login)

/-- A backend that spawns the player starts a transfer that the client is to leave for. -/
theorem Spawns.departing (spawns : session.Spawns frame pending batch) (course : session.Course) :
    ∃ transfer, (session.keptFromPending pending batch).1.transfer = some transfer ∧
      transfer.phase = .departing := by
  obtain ⟨before, behind, asked, -⟩ := spawns.asked
  have onward : (SessionTurn.tookFromPending ⟨session, []⟩ pending frame batch).session.Course :=
    Work.course_of_pending course spawns.met
  have progress := Work.fromPending_progress session pending batch
  have starts : Action.transferStarted session.player.scene.teardown ∈
      (session.fromPending pending batch).actions := by
    have mem : Action.transferStarted session.player.scene.teardown ∈
        session.askedByPending pending batch := by
      rw [asked]
      exact List.mem_append_right _ List.mem_cons_self
    rcases List.mem_append.mp mem with mem | mem
    · exact mem
    · obtain ⟨message, same⟩ := Work.keptFromPending_actions mem
      cases same
  have began := progress.isStart starts rfl
  rcases onward.of_pending rfl with ⟨-, still⟩ | ⟨transfer, -, moving, away, -⟩
  · have aim := @Work.keptFromPending_aim batch session pending
    rw [show (session.keptFromPending pending batch).1.transfer = none from still] at aim
    simp [Option.map_eq_none_iff.mp aim.symm] at began
  · exact ⟨transfer, moving, away⟩

/-- Before a new backend spawns the player, no transfer is in progress. -/
theorem Spawns.unmoved (spawns : session.Spawns frame pending batch) (sound : session.Sound) :
    session.player.transfer = none := by
  obtain ⟨-, -, course⟩ := sound.coherent.of_pending spawns.met
  rcases course.of_pending spawns.met with ⟨-, still⟩ | ⟨_, game, -⟩
  · exact still
  · cases spawns.login.symm.trans game

/-- Once a new backend has spawned the player, the client is on its way out. -/
theorem Sound.departing (sound : session.Sound) (met : session.pending = some pending)
    (game : pending.arrival.started = true) :
    ∃ transfer, session.player.transfer = some transfer ∧ transfer.phase = .departing := by
  obtain ⟨-, -, course⟩ := sound.coherent.of_pending met
  rcases course.of_pending met with ⟨login, -⟩ | ⟨transfer, -, moving, away, -⟩
  · cases game.symm.trans login
  · exact ⟨transfer, moving, away⟩

end Session

/-- A client that is on its way out is locked. -/
theorem Player.locked_of_departing {player : Player} {transfer : Transfer}
    (moving : player.transfer = some transfer) (away : transfer.phase = .departing) :
    player.isLocked = true := by
  simp [isLocked, moving, Transfer.isLocked, away]

/-! ## Work -/

namespace Work

variable {turn : SessionTurn} {event : Event}

/-- What work teaches that starts from a turn with an event. -/
abbrev Teaches (work : Work Unit) (turn middle : SessionTurn) (event : Event) : Prop :=
  work.Leads middle
    (fun _ after => ∃ player batches, turn.session.Learns event player batches ∧
      turn.Hears batches after ∧ after.session.player.Remains player)
    fun _ after => ∃ batches, turn.session.MayHear event batches ∧ turn.Hears batches after

/-- Idle work that goes on from a turn in which something was learned. -/
theorem Idle.teaches {work : Work Unit} {middle : SessionTurn} {player : Player}
    {batches : List Batch} (idle : work.Idle middle)
    (learns : turn.session.Learns event player batches) (hears : turn.Hears batches middle)
    (remains : middle.session.player.Remains player) : work.Teaches turn middle event :=
  idle.mono
    (fun _ _ next => ⟨player, batches, learns, hears.trans next.chats, next.player.trans remains⟩)
    fun _ _ next => ⟨batches, .inr ⟨player, learns⟩, hears.trans next⟩

/-- Idle work teaches nothing. -/
theorem Idle.teachesNothing {work : Work Unit} {middle : SessionTurn} (idle : work.Idle middle)
    (here : turn.Idles middle) (still : turn.session.arrived (.event event) = []) :
    work.Teaches turn middle event :=
  idle.teaches (.nothing still) here.chats here.player

/-- Actions are done behind others, unless those want the session to end. -/
theorem leads_actAll_append {source : BatchSource} {first second : List Action}
    {done : Unit → SessionTurn → Prop} {failed : SessionError → SessionTurn → Prop}
    (going : turn.session.exit = none) :
    (actAll source (first ++ second)).Leads turn done failed ↔
      (actAll source first).Leads turn (fun _ after =>
        if after.session.exit.isNone then (actAll source second).Leads after done failed
        else done () after) failed := by
  induction first generalizing turn with
  | nil =>
    have goes : turn.session.exit.isNone = true := by simp [going]
    simp only [List.nil_append, actAll, leads_pure, goes, if_true]
  | cons action rest ih =>
    rw [List.cons_append, leads_actAll_cons, leads_actAll_cons]
    refine iff_of_eq (congrArg (fun next => Leads _ _ next failed) ?_)
    ext _ after
    split
    next goes => exact ih (by simpa using goes)
    next ends => rfl

/-! ### Frames from the client -/

/-- Nothing that the client sends moves it, or changes what it shows. -/
theorem fromClient_remains {session : Session} {batch : Batch} :
    (session.fromClient batch).player.Remains session.player := by
  have looked (player : Player) (id : PacketId) (value : Packet) :
      (Bridge.handle Handler.client () player id value).player.dimension = player.dimension ∧
        (Bridge.handle Handler.client () player id value).player.scene = player.scene := by
    unfold Bridge.handle
    split
    · unfold Handler.client
      dsimp only
      split
      · split <;> exact ⟨rfl, rfl⟩
      · exact ⟨rfl, rfl⟩
      · exact ⟨rfl, rfl⟩
    · exact ⟨rfl, rfl⟩
  have kept := @Bridge.process_tracks Unit Handler.client .serverbound
    session.client.connection.version () session.player batch
    (fun passage => passage.2.1.dimension = session.player.dimension ∧
      passage.2.1.scene = session.player.scene) ?_ ⟨rfl, rfl⟩
  · exact ⟨kept.1, kept.2, .inr process_client.1⟩
  · intro crossing packet _ here passage crosses
    cases crosses with
    | unread => exact here
    | unreadable => exact here
    | @takenOut value handled _ same =>
      obtain ⟨dimension, scene⟩ := looked crossing.player packet.header.id value
      rw [same]
      exact ⟨dimension.trans here.1, scene.trans here.2⟩
    | @letThrough value handled _ same =>
      obtain ⟨dimension, scene⟩ := looked crossing.player packet.header.id value
      rw [same]
      exact ⟨dimension.trans here.1, scene.trans here.2⟩

/-- The player once a frame from the client was looked at. -/
theorem tookFromClient_idles {frame : Bytes} {batch : Batch} (tidy : turn.session.Tidy) :
    turn.Idles (turn.tookFromClient frame batch) := by
  refine ⟨.silent (tookFromClient_proceeds tidy).passes.tidy rfl (List.append_assoc _ _ _) ?_,
    fromClient_remains⟩
  rw [heardBatches_append, heardBatches_decodingCounted, heardBatches_counted]
  rfl

/-- Idle work of a frame, and then what the frame asks for. -/
theorem teaches_passOn {write : Work Unit} {middle : SessionTurn} {source : BatchSource}
    {actions : List Action} (taught : write.Teaches turn middle event)
    (kept : write.Leads middle (fun _ after => after.session.IsFree) fun _ _ => True)
    (asked : ∀ action ∈ actions,
      action = .dimensionChanged ∨ ∃ message, action = .kicked message) :
    write.Leads middle (fun _ after => (actAll source actions).Teaches turn after event)
      fun _ after => ∃ batches, turn.session.MayHear event batches ∧ turn.Hears batches after := by
  refine (taught.and kept).mono ?_ fun _ _ both => both.1
  rintro _ after ⟨⟨player, batches, learns, hears, remains⟩, going, underway, free⟩
  exact (idle_actAll hears.tidy going underway free asked).teaches learns hears remains

/-- A frame of a client that is free teaches what it has crossed with. -/
theorem teaches_onClient_of_free {frame : Bytes} (tidy : turn.session.Tidy)
    (isFree : turn.session.IsFree) :
    (onClient frame).Teaches turn turn (.client (some frame)) := by
  cases decoded : (turn.session.client.connection.decode frame).1 with
  | error fault =>
    exact (leads_onClient_of_error decoded).mpr ⟨_, .inl rfl, SessionTurn.Chats.silent
      ⟨tidy.client.of_same rfl rfl, tidy.backend, tidy.active, tidy.pending⟩ rfl rfl
      heardBatches_decodingCounted⟩
  | ok batch =>
    have took := @tookFromClient_idles turn frame batch tidy
    obtain ⟨same, asked⟩ := @process_client .serverbound turn.session.client.connection.version
      turn.session.player batch
    have queued : (turn.session.fromClient batch).batch.skipQueue = false :=
      Bridge.process_skipQueue.trans (Connection.decode_skipQueue decoded)
    have still : (turn.tookFromClient frame batch).session.IsFree :=
      isFree.congr rfl rfl rfl rfl rfl same
    refine (leads_onClient decoded).mpr
      (teaches_passOn ?_ ?_ fun action mem => .inl (asked action mem))
    · split
      · exact (idle_write_toBackend took.chats.tidy still.free queued).teachesNothing took rfl
      · exact ⟨_, _, .nothing rfl, took.chats, took.player⟩
    · split
      · exact leads_toBackend_keeps Session.IsFree still fun backend on peer =>
          still.congr rfl rfl (by simp [on]) rfl rfl rfl
      · exact still

/-- Packets of the proxy that overtake what is queued are heard if the client is open. -/
theorem sends_told {packets : List Packet} (tidy : turn.session.Tidy) (filled : packets ≠ []) :
    (toClient fun peer => peer.sendNow packets).Leads turn
      (fun _ after => turn.session.client.isOpen = true ∧
        turn.Sends [Batch.ahead packets] after ∧
        ∃ client, after.session = { turn.session with client := client } ∧
          client.isOpen = true ∧ client.queue = turn.session.client.queue)
      fun _ after => turn.session.client.isOpen = false ∧ turn.Chats after := by
  have told := @told_passes turn packets tidy
  have queue : (turn.told packets).session.client.queue = turn.session.client.queue :=
    Peer.sendNow_queue
  have heard := @Peer.heardBatches_sendNow turn.session.client packets
  rw [tidy.client.isClient] at heard
  refine (leads_told filled).mpr ?_
  split
  next opened =>
    rw [opened] at heard
    refine ⟨opened, ⟨told.tidy, by rw [queue]; exact fun _ => id, _, rfl, ?_⟩,
      (turn.session.client.sendNow packets).2.1, rfl, ?_, queue⟩
    · refine heard.trans ?_
      simp [filled]
    · simpa [Peer.isOpen] using opened
  next closed =>
    refine ⟨by simpa using closed, .silent told.tidy queue rfl (heard.trans ?_)⟩
    simp [closed]

/-- Batches for an open client are heard behind what is queued. -/
theorem sends_writeAll {batches : List Batch} (tidy : turn.session.Tidy)
    (opened : turn.session.client.isOpen = true)
    (queued : ∀ batch ∈ batches, batch.skipQueue = false) :
    (toClient fun peer => peer.writeAll batches).Leads turn
      (fun _ after => turn.Sends
          ((if batches.isEmpty then [] else turn.session.client.queue.queuedBatch) ++ batches)
          after ∧ after.session.player = turn.session.player)
      fun _ _ => False := by
  have faces := tidy.client
  have heard := @Peer.heardBatches_writeAll turn.session.client batches opened faces.active queued
  obtain ⟨result, queue, -⟩ := @Peer.writeAll_of_open turn.session.client batches
    LinkId.isClient opened faces.active queued
  rw [faces.isClient, if_pos rfl] at heard
  rw [leads_toClient, leads_check, result]
  refine ⟨⟨⟨faces.writeAll queued, tidy.backend, tidy.active, tidy.pending⟩, ?_, _, rfl, heard⟩,
    rfl⟩
  rw [queue]
  dsimp only
  split
  · exact fun _ => id
  · exact List.nil_subset _

/-- With the acknowledgment of a client that is on its way out, it is sent on, and then hears all
that has waited for it. -/
theorem sends_acknowledge {transfer : Transfer} {pending : PendingBackend}
    (tidy : turn.session.Tidy) (met : turn.session.pending = some pending)
    (moving : turn.session.player.transfer = some transfer)
    (away : transfer.phase = .departing) :
    acknowledge.Leads turn
      (fun _ after => turn.session.client.isOpen = true ∧
        turn.Sends (Batch.ahead (turn.session.player.arrivalPackets transfer) ::
          ((if transfer.waiting.release.1.isEmpty then []
            else turn.session.client.queue.queuedBatch) ++ transfer.waiting.release.1)) after ∧
        after.session.player = { turn.session.player with
          dimension := transfer.targetDimension
          transfer := some { transfer with
            phase := .arriving
            waiting := transfer.waiting.release.2 } })
      fun _ after => turn.Chats after := by
  let onward : Transfer := { transfer with phase := .arriving }
  have promoted : turn.Sends [] ⟨turn.session.promoted pending onward, turn.outputs⟩ :=
    .silent (tidy.promoted met) rfl (List.append_nil _).symm rfl
  simp only [acknowledge, leads_bind, leads_session, moving, Option.map_some,
    Transfer.acknowledge, away]
  refine (leads_finishDeparture met).mpr
    ((sends_told promoted.tidy (by simp [Player.arrivalPackets])).mono ?_ ?_)
  · rintro _ told ⟨opened, sends, client, same, stays, queue⟩
    have alive : told.session.client.isOpen = true := by rw [same]; exact stays
    have queued : told.session.client.queue = turn.session.client.queue := by rw [same]; exact queue
    refine (sends_writeAll sends.tidy alive transfer.waiting.release_queued).mono ?_ ?_
    · rintro _ after ⟨further, player⟩
      rw [queued] at further
      exact ⟨opened, (promoted.trans sends).trans further, by rw [player, same]; rfl⟩
    · intro _ _ fault
      exact fault.elim
  · rintro _ told ⟨-, chats⟩
    exact promoted.andThen chats

/-- The client has said that it has left the old backend. -/
theorem teaches_onClient_of_left {frame : Bytes} {transfer : Transfer} {pending : PendingBackend}
    (tidy : turn.session.Tidy) (going : turn.session.exit = none)
    (underway : turn.session.Underway) (met : turn.session.pending = some pending)
    (moving : turn.session.player.transfer = some transfer) (away : transfer.phase = .departing)
    (said : turn.session.askedByClient frame ≠ []) :
    (onClient frame).Teaches turn turn (.client (some frame)) := by
  cases decoded : (turn.session.client.connection.decode frame).1 with
  | error fault => simp [Session.askedByClient, decoded] at said
  | ok batch =>
    have took := @tookFromClient_idles turn frame batch tidy
    obtain ⟨same, asked⟩ := @process_client .serverbound turn.session.client.connection.version
      turn.session.player batch
    have onward : (turn.tookFromClient frame batch).session.player.transfer = some transfer :=
      same.trans moving
    have lock : (turn.session.fromClient batch).player.isLocked = true := by
      simp [Player.isLocked, Session.fromClient, same, moving, Transfer.isLocked, away]
    have player : turn.session.playerAfterClient frame =
        (turn.tookFromClient frame batch).session.player := by
      simp [Session.playerAfterClient, decoded, SessionTurn.tookFromClient]
    have bearing : (turn.tookFromClient frame batch).session.Underway :=
      underway.congr rfl rfl rfl rfl rfl (congrArg _ same)
    have silent : turn.Sends [] (turn.tookFromClient frame batch) := by
      refine .silent took.chats.tidy rfl (List.append_assoc _ _ _) ?_
      rw [heardBatches_append, heardBatches_decodingCounted, heardBatches_counted]
      rfl
    refine (leads_onClient decoded).mpr ?_
    simp only [lock, Bool.not_true, Bool.and_false, Bool.false_eq_true, if_false, leads_pure]
    obtain ⟨action, rest, actions⟩ : ∃ action rest,
        (turn.session.fromClient batch).actions = action :: rest := by
      refine List.exists_cons_of_ne_nil ?_
      simpa [Session.askedByClient, decoded] using said
    have all : ∀ other ∈ action :: rest, other = .dimensionChanged := by
      rw [← actions]
      exact asked
    rw [actions]
    cases all action List.mem_cons_self
    have first := (sends_acknowledge took.chats.tidy met onward away).and
      (staysUnderway_acknowledge bearing (bearing.2 going))
    refine leads_actAll_cons.mpr (first.mono ?_ ?_)
    · rintro _ after ⟨⟨opened, sends, known⟩, kept⟩
      have learns : turn.session.Learns (.client (some frame)) _ _ :=
        .left met moving away said opened
      have hears : turn.Hears (turn.session.arrivalBatches frame transfer) after := by
        unfold Session.arrivalBatches
        rw [player]
        exact (silent.trans sends).hears
      have remains : after.session.player.Remains { turn.session.player with
          dimension := transfer.targetDimension
          transfer := some { transfer with
            phase := .arriving
            waiting := transfer.waiting.release.2 } } := by
        rw [known]
        exact ⟨rfl, took.player.scene, .inr rfl⟩
      have free : after.session.player.isLocked = false := by
        simp [known, Player.isLocked, Transfer.isLocked]
      split
      next goes =>
        exact (idle_actAll sends.tidy (by simpa using goes) kept free fun other mem =>
          .inl (all other (List.mem_cons_of_mem _ mem))).teaches learns hears remains
      next => exact ⟨_, _, learns, hears, remains⟩
    · rintro _ after ⟨chats, -⟩
      exact ⟨_, .inl rfl, silent.andThen chats⟩

/-- What a frame of the client teaches. -/
theorem teaches_onClient {frame : Bytes} (tidy : turn.session.Tidy)
    (going : turn.session.exit = none) (underway : turn.session.Underway) :
    (onClient frame).Teaches turn turn (.client (some frame)) := by
  cases locked : turn.session.player.isLocked with
  | false => exact teaches_onClient_of_free tidy ⟨going, underway, locked⟩
  | true =>
    obtain ⟨pending, transfer, met, -, moving, away⟩ := (underway.2 going).of_locked locked
    by_cases said : turn.session.askedByClient frame = []
    · cases decoded : (turn.session.client.connection.decode frame).1 with
      | error fault =>
        exact (leads_onClient_of_error decoded).mpr ⟨_, .inl rfl, SessionTurn.Chats.silent
          ⟨tidy.client.of_same rfl rfl, tidy.backend, tidy.active, tidy.pending⟩ rfl rfl
          heardBatches_decodingCounted⟩
      | ok batch =>
        have took := @tookFromClient_idles turn frame batch tidy
        have lock : (turn.session.fromClient batch).player.isLocked = true := by
          unfold Player.isLocked
          rw [show (turn.session.fromClient batch).player.transfer =
            turn.session.player.transfer from process_client.1]
          exact locked
        have idle : (turn.session.fromClient batch).actions = [] := by
          simpa [Session.askedByClient, decoded] using said
        refine (leads_onClient decoded).mpr ?_
        simp only [lock, idle, Bool.not_true, Bool.and_false, Bool.false_eq_true, if_false,
          leads_pure]
        exact ⟨_, _, .nothing rfl, took.chats, took.player⟩
    · exact teaches_onClient_of_left tidy going underway met moving away said

/-! ### Frames from the backend -/

/-- A batch for the client is heard behind what is queued, if the client is open. -/
theorem sends_write {batch : Batch} (tidy : turn.session.Tidy) (queued : batch.skipQueue = false) :
    (toClient fun peer => peer.write batch).Leads turn
      (fun _ after => turn.Sends (turn.session.client.queue.queuedBatch ++ [batch]) after ∧
        after.session.player = turn.session.player)
      fun _ after => turn.Chats after := by
  have faces := tidy.client
  have active := faces.active
  have result := @Peer.write_result turn.session.client batch (.inr active)
  have heard := @Peer.heardBatches_write turn.session.client batch (.inr active)
  have still : (turn.session.client.write batch).2.1.FacesClient := faces.write queued
  have among : (turn.session.client.write batch).2.1.queue.packets ⊆
      turn.session.client.queue.packets := by
    rcases Peer.write_queue_cases queued active with same | emptied
    · rw [same]
      exact fun _ => id
    · rw [emptied]
      exact List.nil_subset _
  have tidied : Session.Tidy { turn.session with
      client := (turn.session.client.write batch).2.1 } :=
    ⟨still, tidy.backend, tidy.active, tidy.pending⟩
  rw [faces.isClient, queued, Bool.true_and] at heard
  rw [leads_toClient, leads_check, result]
  cases dead : turn.session.client.queue.dead with
  | true =>
    rw [show turn.session.client.isOpen = false by simp [Peer.isOpen, dead]] at heard
    exact SessionTurn.Sends.hears ⟨tidied, among, _, rfl, heard⟩
  | false =>
    cases severed : turn.session.client.connection.severed with
    | true =>
      rw [show turn.session.client.isOpen = false by simp [Peer.isOpen, severed]] at heard
      exact SessionTurn.Sends.hears ⟨tidied, among, _, rfl, heard⟩
    | false =>
      rw [show turn.session.client.isOpen = true by simp [Peer.isOpen, dead, severed]] at heard
      exact ⟨⟨tidied, among, _, rfl, heard⟩, rfl⟩

/-- A batch of the backend that the client is on. -/
theorem teaches_onBackend {frame : Bytes} (tidy : turn.session.Tidy)
    (going : turn.session.exit = none) (underway : turn.session.Underway) :
    (onBackend frame).Teaches turn turn (.backend (some frame)) := by
  cases on : turn.session.backend with
  | none =>
    exact (leads_onBackend_of_none on).mpr
      ⟨_, _, .nothing rfl, SessionTurn.Chats.refl tidy, .refl _⟩
  | some backend =>
    have opened : turn.Idles ⟨{ turn.session with
        backend := some { backend with peer := backend.peer.decoding frame } },
        turn.outputs ++ backend.peer.decodingCounted frame⟩ :=
      ⟨.silent (opened_proceeds tidy on).passes.tidy rfl rfl heardBatches_decodingCounted, .refl _⟩
    cases decoded : (backend.peer.connection.decode frame).1 with
    | error fault =>
      exact (leads_onBackend_of_error on decoded).mpr ⟨_, .inl rfl, opened.chats⟩
    | ok batch =>
      cases locked : turn.session.player.isLocked with
      | true =>
        exact (leads_onBackend_of_locked on locked decoded).mpr
          ⟨_, _, .nothing rfl, opened.chats, opened.player⟩
      | false =>
        have isFree : turn.session.IsFree := ⟨going, underway, locked⟩
        have still := @tookFromBackend_isFree turn frame backend batch on isFree
        have took : turn.Sends [] (turn.tookFromBackend backend frame batch) := by
          refine .silent (tookFromBackend_proceeds tidy on isFree).passes.tidy rfl
            (List.append_assoc _ _ _) ?_
          rw [heardBatches_append, heardBatches_decodingCounted, heardBatches_counted]
          rfl
        have asked := (@process_backend .clientbound backend.peer.connection.version
          turn.session.player batch backend.server).2
        have queued : (turn.session.fromBackend backend batch).batch.skipQueue = false :=
          Bridge.process_skipQueue.trans (Connection.decode_skipQueue decoded)
        have learns : turn.session.Learns (.backend (some frame)) _ _ :=
          .relayed on locked decoded
        have heard : turn.session.relayedBatches backend batch =
            if (turn.session.fromBackend backend batch).batch.packets.isEmpty then []
            else turn.session.client.queue.queuedBatch ++
              [(turn.session.fromBackend backend batch).batch] := rfl
        refine (leads_onBackend on locked decoded).mpr
          (teaches_passOn ?_ ?_ fun action mem => .inr (asked action mem))
        · split
          next goes =>
            rw [if_neg (by simpa using goes)] at heard
            refine (sends_write took.tidy queued).mono ?_ ?_
            · rintro _ after ⟨sends, player⟩
              have whole : turn.Sends (turn.session.relayedBatches backend batch) after :=
                heard ▸ took.trans sends
              exact ⟨_, _, learns, whole.hears, by rw [player]; exact .refl _⟩
            · intro _ after chats
              exact ⟨_, .inl rfl, took.andThen chats⟩
          next stops =>
            rw [if_pos (by simpa using stops)] at heard
            exact ⟨_, _, learns, heard ▸ took.hears, .refl _⟩
        · split
          · exact leads_toClient_keeps Session.IsFree fun client =>
              still.congr rfl rfl rfl rfl rfl rfl
          · exact still

end Work

end Ferry
