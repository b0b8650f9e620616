import Ferry.Proofs.Transfer.Milestones

/-!
# Which milestones are due

What a move of a session has to say on account of a transfer is a matter of the session and of the
move: a client that a new backend spawns is sent away, one that acknowledges the first change is
sent on, and one that acknowledges the second has arrived. Each move reaches the milestones that are
due with it, and no other ones.
-/

namespace Ferry

/-! ## What is no milestone -/

/-- A packet without a body is not the word that a player has arrived. -/
theorem Packet.decode_initialized_nil {version : Version} {value : Packet} :
    Packet.decode version PacketId.setLocalPlayerAsInitialized [] ≠ .ok value := by
  intro decoded
  cases decoded

/-- A packet that the proxy has not made itself is no word of its own. -/
theorem BatchPacket.initialized?_of_read {packet : BatchPacket} {version : Version} {value : Packet}
    (read : Packet.decode version packet.header.id packet.body = .ok value) :
    packet.initialized? = none := by
  unfold initialized?
  split
  next word said =>
    split
    next made =>
      rw [made] at read
      exact absurd read Packet.decode_initialized_nil
    next => rfl
  next => rfl

/-- Packets that only cross are no word of the proxy. -/
theorem Bridge.process_passing {σ : Type} {handler : Handler σ} {direction : Direction}
    {version : Version} {state : σ} {player : Player} {batch : Batch}
    (received : ∀ packet ∈ batch.packets, packet.decoded = none) :
    ∀ packet ∈ (process handler direction version state player batch).batch.packets,
      packet.initialized? = none := by
  refine process_tracks (fun passage => ∀ packet ∈ passage.2.2, packet.initialized? = none) ?_
    (by simp)
  intro crossing packet mem here passage crosses
  have first := received packet mem
  cases crosses with
  | unread =>
    refine List.forall_mem_append.mpr ⟨here, List.forall_mem_singleton.mpr ?_⟩
    simp [BatchPacket.initialized?, first]
  | unreadable => exact here
  | takenOut => exact here
  | @letThrough value handled decoded =>
    have read : Packet.decode version packet.header.id packet.body = .ok value := by
      unfold BatchPacket.decode at decoded
      rw [first] at decoded
      exact decoded
    exact List.forall_mem_append.mpr ⟨here, List.forall_mem_singleton.mpr
      (BatchPacket.initialized?_of_read read)⟩

/-- Whether an action, if it is to answer, does not say that a player has arrived. -/
def Action.IsNoWord (action : Action) : Prop :=
  ∀ packet, action = .reply packet → (BatchPacket.made packet).initialized? = none

/-- What a new backend is answered while it logs the player in is no word that it has arrived. -/
theorem Handler.arrival_noWord (arrival : Arrival) (player : Player) (packet : Packet) :
    ∀ action ∈ (Handler.arrival.handle arrival player packet).actions, action.IsNoWord := by
  unfold Handler.arrival
  dsimp only
  split
  · cases packet <;> simp [Arrival.handleGame, Handled.untouched, Action.IsNoWord]
  · unfold Arrival.handleLogin
    split
    · simp [Action.IsNoWord, BatchPacket.initialized?, BatchPacket.made]
    · simp [Action.IsNoWord, BatchPacket.initialized?, BatchPacket.made]
    · split <;> simp [Action.IsNoWord]
    · simp [Action.IsNoWord]
    · simp [Action.IsNoWord, BatchPacket.initialized?, BatchPacket.made, Arrival.radiusRequest]
    · simp

/-- Nothing that a new backend causes says that a player has arrived. -/
theorem Session.askedByPending_noWord {session : Session} {pending : PendingBackend}
    {batch : Batch} : ∀ action ∈ session.askedByPending pending batch, action.IsNoWord := by
  refine List.forall_mem_append.mpr ⟨?_, fun action mem => ?_⟩
  · refine Bridge.process_keeps (fun _ _ actions => ∀ action ∈ actions, action.IsNoWord)
      ?_ (fun _ _ _ _ same => same) (by simp)
    intro state player actions packet kept
    exact List.forall_mem_append.mpr ⟨kept, Handler.arrival_noWord state player packet⟩
  · obtain ⟨message, rfl⟩ := Work.keptFromPending_actions mem
    rintro packet ⟨⟩

/-! ## What is due -/

namespace Session

/-- The backend that spawns the player with a frame, and its batch. -/
def spawning? (session : Session) (frame : Bytes) : Option (PendingBackend × Batch) :=
  match session.pending with
  | none => none
  | some pending =>
    match (pending.peer.connection.decode frame).1 with
    | .error _ => none
    | .ok batch =>
      if !pending.arrival.started &&
          (StartGame.first pending.peer.connection.version batch.packets).isSome then
        some (pending, batch)
      else none

/-- The backend that spawns the player is found exactly where there is one. -/
theorem spawning?_eq_some {session : Session} {frame : Bytes} {pending : PendingBackend}
    {batch : Batch} :
    session.spawning? frame = some (pending, batch) ↔ session.Spawns frame pending batch := by
  constructor
  · intro same
    unfold spawning? at same
    split at same
    · cases same
    next there met =>
      split at same
      · cases same
      next read decoded =>
        split at same
        next spawns =>
          obtain ⟨rfl, rfl⟩ := Prod.mk.inj (Option.some.inj same)
          simp only [Bool.and_eq_true, Bool.not_eq_eq_eq_not, Bool.not_true] at spawns
          exact ⟨met, spawns.1, decoded, spawns.2⟩
        next => cases same
  · intro spawns
    simp [spawning?, spawns.met, spawns.decoded, spawns.login, spawns.spawned]

/-- What is due with the acknowledgments of a client that is being transferred. With the first one
it is sent on, and with the second, which may be in the same frame, it has arrived. -/
def dueOfAnswers (session : Session) (frame : Bytes) (transfer : Transfer) : List Milestone :=
  let player := session.playerAfterClient frame
  match transfer.phase, session.answersIn frame with
  | .departing, _ :: more => .directed (Batch.ahead (player.arrivalPackets transfer)) ::
      if more.isEmpty then []
      else arrivalMilestones session.pendingLink player transfer
  | .arriving, _ :: _ => arrivalMilestones session.backendLink player transfer
  | _, _ => []

/-- The milestones that are due with a move. Those of a client that is gone never are. -/
def due (session : Session) : Move → List Milestone
  | .event (.client (some frame)) =>
    if session.client.isOpen then
      session.player.transfer.toList.flatMap (session.dueOfAnswers frame)
    else []
  | .event (.pending (some frame)) =>
    match session.spawning? frame with
    | some (pending, batch) =>
      if session.client.isOpen && !pending.refusesFirst batch then
        (session.keptFromPending pending batch).1.transfer.toList.map fun transfer =>
          .directed (session.departureBatch pending batch transfer)
      else []
    | none => []
  | _ => []

section Due

variable {session : Session} {frame : Bytes} {transfer : Transfer} {pending : PendingBackend}
  {batch : Batch}

/-- What is due with a frame of a client that is being transferred. -/
theorem due_of_client (moving : session.player.transfer = some transfer) :
    session.due (.event (.client (some frame))) =
      if session.client.isOpen then session.dueOfAnswers frame transfer else [] := by
  simp [due, moving]

/-- What is due with a frame that spawns the player. -/
theorem due_of_spawns (spawns : session.Spawns frame pending batch)
    (moving : (session.keptFromPending pending batch).1.transfer = some transfer) :
    session.due (.event (.pending (some frame))) =
      if session.client.isOpen && !pending.refusesFirst batch then
        [.directed (session.departureBatch pending batch transfer)] else [] := by
  simp [due, spawning?_eq_some.mpr spawns, moving]

/-- With a frame of the client that is not decoded nothing is due. -/
theorem due_of_undecoded {fault : ConnectionError}
    (decoded : (session.client.connection.decode frame).1 = .error fault) :
    session.due (.event (.client (some frame))) = [] := by
  cases moving : session.player.transfer with
  | none => simp [due, moving]
  | some transfer =>
    rw [due_of_client moving]
    simp [dueOfAnswers, answersIn, decoded]

/-- With a frame that does not spawn the player nothing is due. -/
theorem due_of_unspawned (unspawned : session.spawning? frame = none) :
    session.due (.event (.pending (some frame))) = [] := by simp [due, unspawned]

end Due

/-- What is known about the player once a batch of the client has been looked at. -/
theorem playerAfterClient_of_decoded {session : Session} {frame : Bytes} {batch : Batch}
    (decoded : (session.client.connection.decode frame).1 = .ok batch) :
    session.playerAfterClient frame = (session.fromClient batch).player := by
  simp [playerAfterClient, decoded]

/-- A client that is being transferred asks for as much as it acknowledges. -/
theorem fromClient_actions {session : Session} {frame : Bytes} {batch : Batch}
    (decoded : (session.client.connection.decode frame).1 = .ok batch)
    (moving : session.player.transfer.isSome = true) : (session.fromClient batch).actions =
      (session.answersIn frame).map fun _ => .dimensionChanged := by
  rw [← askedByClient_of_moving moving]
  simp [askedByClient, decoded]

/-- A batch that does not spawn the player does not start a transfer. -/
theorem askedByPending_of_unspawned {session : Session} {frame : Bytes} {pending : PendingBackend}
    {batch : Batch} (met : session.pending = some pending)
    (decoded : (pending.peer.connection.decode frame).1 = .ok batch)
    (unspawned : session.spawning? frame = none) :
    ∀ action ∈ session.askedByPending pending batch,
      action.isOfArrival = true ∧ action.isStart = false := by
  cases started : pending.arrival.started with
  | true =>
    refine List.forall_mem_append.mpr
      ⟨(Work.fromPending_progress session pending batch).quiet started, fun action mem => ?_⟩
    obtain ⟨message, rfl⟩ := Work.keptFromPending_actions mem
    exact ⟨rfl, rfl⟩
  | false =>
    refine (keptFromPending_of_login started ?_).2
    simpa [spawning?, met, decoded, started] using unspawned

end Session

namespace Work

variable {turn : SessionTurn} {frame : Bytes} {batch : Batch} {actions : List Action}
  {transfer : Transfer} {pending : PendingBackend}

/-! ## Acknowledgments -/

/-- Acknowledgments of a client that is not being transferred are nothing. -/
theorem reaches_answers_of_ended (tidy : turn.session.Tidy) (going : turn.session.exit = none)
    (ended : turn.session.player.transfer = none)
    (asked : ∀ action ∈ actions, action = .dimensionChanged) :
    (actAll .client actions).Reaches turn [] := by
  have all : (actAll .client actions).Leads turn
      (fun _ after => turn.Reaches [] after ∧ after.session.player.transfer = none)
      fun _ after => turn.Reaches [] after := by
    refine leads_actAll (fun after => turn.Reaches [] after ∧ after.session.player.transfer = none)
      ?_ going ⟨.refl tidy, ended⟩
    rintro action mem here - ⟨reached, finished⟩
    cases asked action mem
    simpa [act, acknowledge, finished] using reached
  exact all.mono (fun _ _ both => both.1) fun _ _ kept => kept

/-- The first acknowledgment of a client that is on its way in ends the transfer, and further ones
are nothing. -/
theorem reaches_answers_of_arriving (tidy : turn.session.Tidy)
    (moving : turn.session.player.transfer = some transfer) (arriving : transfer.phase = .arriving)
    (acted : actions ≠ []) (asked : ∀ action ∈ actions, action = .dimensionChanged) :
    (actAll .client actions).Reaches turn (if turn.session.client.isOpen then
      arrivalMilestones turn.session.backendLink turn.session.player transfer else []) := by
  cases actions with
  | nil => exact absurd rfl acted
  | cons action rest =>
    obtain ⟨rfl, others⟩ := List.forall_mem_cons.mp asked
    refine leads_actAll_cons.mpr (((reaches_acknowledge_of_arriving tidy moving arriving).and
      (ended_acknowledge moving arriving)).mono ?_ fun _ _ both => both.1)
    rintro _ after ⟨reached, ended⟩
    split
    next goes =>
      exact (reaches_answers_of_ended reached.tidy (by simpa using goes) ended others).from reached
    next => exact reached

/-- The first acknowledgment of a client that is on its way out sends it on, and the second ends the
transfer. -/
theorem reaches_answers_of_departing (tidy : turn.session.Tidy) (going : turn.session.exit = none)
    (met : turn.session.pending = some pending)
    (moving : turn.session.player.transfer = some transfer) (away : transfer.phase = .departing)
    {rest : List Action} (asked : ∀ action ∈ rest, action = .dimensionChanged) :
    (actAll .client (.dimensionChanged :: rest)).Reaches turn (if turn.session.client.isOpen then
      .directed (Batch.ahead (turn.session.player.arrivalPackets transfer)) ::
        if rest.isEmpty then []
        else arrivalMilestones pending.peer.openLink turn.session.player transfer
      else []) := by
  refine leads_actAll_cons.mpr ?_
  cases opened : turn.session.client.isOpen with
  | false =>
    simp only [Bool.false_eq_true, if_false]
    exact leads_acknowledge_of_closed tidy met moving away opened
  | true =>
    simp only [if_true]
    refine (leads_acknowledge_of_departing tidy met moving away opened).mono ?_
      fun _ _ => False.elim
    rintro _ after ⟨reached, open', client, same⟩
    have goes : after.session.exit = none := by rw [same]; exact going
    rw [if_pos (by simp [goes])]
    cases rest with
    | nil => simpa [actAll] using reached
    | cons second others =>
      have onward : after.session.player.transfer = some { transfer with
          phase := .arriving
          waiting := transfer.waiting.release.2 } := by rw [same]; rfl
      have arrives := reaches_answers_of_arriving reached.tidy onward rfl (by simp) asked
      rw [if_pos open', show after.session.backendLink = pending.peer.openLink by rw [same]; rfl,
        show arrivalMilestones pending.peer.openLink after.session.player _ =
          arrivalMilestones pending.peer.openLink turn.session.player transfer by
            rw [same]; rfl] at arrives
      simp only [List.isEmpty_cons, Bool.false_eq_true, if_false]
      exact arrives.mono (fun _ _ next => reached.trans next) fun _ _ next => reached.trans next

/-! ## Frames -/

/-- A frame that is opened, and a batch that is looked at, are no milestone. -/
theorem tookFromClient_reaches (tidy : turn.session.Tidy) :
    turn.Reaches [] (turn.tookFromClient frame batch) := by
  refine .of_outputs (tookFromClient_idles tidy).chats.tidy (List.append_assoc _ _ _) ?_
  rw [milestones_append, milestones_decodingCounted, milestones_counted]
  rfl

/-- A batch of a free client goes on to the backend, which cannot fail, and changes nothing about
whom the client is to arrive at. -/
theorem leads_passOut (tidy : turn.session.Tidy) (free : turn.session.player.isLocked = false)
    (queued : batch.skipQueue = false)
    (passing : ∀ packet ∈ batch.packets, packet.initialized? = none) (goes : Bool) :
    (if goes then toBackend fun peer => peer.write batch else pure ()).Leads turn
      (fun _ after => turn.Reaches [] after ∧ after.session.exit = turn.session.exit ∧
        after.session.player = turn.session.player ∧
        after.session.client = turn.session.client ∧
        after.session.backendLink = turn.session.backendLink)
      fun _ _ => False := by
  have still : turn.Reaches [] turn := .refl tidy
  cases goes with
  | false => exact ⟨still, rfl, rfl, rfl, rfl⟩
  | true =>
    simp only [if_true]
    have reaches := reaches_write_toBackend tidy free queued passing
    cases on : turn.session.backend with
    | none => exact (leads_toBackend_of_none on).mpr ⟨still, rfl, rfl, rfl, rfl⟩
    | some backend =>
      have result : tolerate (backend.peer.write batch).1 = .ok () := by
        rw [Peer.write_result (.inr (tidy.active backend on free)),
          (tidy.backend backend on).alive]
        cases backend.peer.connection.severed <;> rfl
      rw [Reaches, leads_toBackend on, leads_check, result] at reaches
      rw [leads_toBackend on, leads_check, result]
      refine ⟨reaches, rfl, rfl, rfl, ?_⟩
      simp [Session.backendLink, on, Peer.openLink]

/-- What a client asks for that is free to speak to its backend, once its batch has gone on to that.
Only if it is on its way in are its acknowledgments for something. -/
theorem reaches_asked_of_free {session : Session} (course : session.Course)
    (free : session.player.isLocked = false)
    (decoded : (session.client.connection.decode frame).1 = .ok batch) (tidy : turn.session.Tidy)
    (going : turn.session.exit = none)
    (known : turn.session.player = (session.fromClient batch).player)
    (opened : turn.session.client.isOpen = session.client.isOpen)
    (link : turn.session.backendLink = session.backendLink) :
    (actAll .client (session.fromClient batch).actions).Reaches turn
      (session.due (.event (.client (some frame)))) := by
  obtain ⟨same, asked⟩ := @process_client .serverbound session.client.connection.version
    session.player batch
  have onward : turn.session.player.transfer = session.player.transfer := by
    rw [known]
    exact same
  cases moving : session.player.transfer with
  | none =>
    have nothing : session.due (.event (.client (some frame))) = [] := by
      simp [Session.due, moving]
    rw [nothing]
    exact reaches_answers_of_ended tidy going (onward.trans moving) asked
  | some transfer =>
    have arriving : transfer.phase = .arriving := course.arriving_of_free moving free
    have actions := Session.fromClient_actions decoded (by rw [moving]; rfl)
    rw [Session.due_of_client moving, Session.dueOfAnswers, arriving,
      Session.playerAfterClient_of_decoded decoded]
    cases answered : session.answersIn frame with
    | nil =>
      have nothing : (session.fromClient batch).actions = [] := by
        rw [actions, answered]
        rfl
      simp only [nothing, actAll, leads_pure, ite_self]
      exact .refl tidy
    | cons answer more =>
      have acted : (session.fromClient batch).actions ≠ [] := by
        rw [actions, answered]
        simp
      have arrives := reaches_answers_of_arriving tidy (onward.trans moving) arriving acted asked
      rw [known, opened, link] at arrives
      exact arrives

/-- What a client asks for that is on its way out. -/
theorem reaches_asked_of_locked (tidy : turn.session.Tidy) (going : turn.session.exit = none)
    (course : turn.session.Course) (locked : turn.session.player.isLocked = true)
    (decoded : (turn.session.client.connection.decode frame).1 = .ok batch) :
    (actAll .client (turn.session.fromClient batch).actions).Reaches
      (turn.tookFromClient frame batch) (turn.session.due (.event (.client (some frame)))) := by
  obtain ⟨pending, transfer, met, -, moving, away⟩ := course.of_locked locked
  have took := (@tookFromClient_reaches turn frame batch tidy).tidy
  have onward : (turn.tookFromClient frame batch).session.player.transfer = some transfer :=
    process_client.1.trans moving
  rw [Session.fromClient_actions decoded (by rw [moving]; rfl), Session.due_of_client moving,
    Session.dueOfAnswers, away, Session.playerAfterClient_of_decoded decoded]
  cases turn.session.answersIn frame with
  | nil =>
    simp only [List.map_nil, actAll, leads_pure, ite_self]
    exact .refl took
  | cons answer more =>
    have departs := @reaches_answers_of_departing (turn.tookFromClient frame batch) transfer
      pending took going met onward away (more.map fun _ => .dimensionChanged) (by simp)
    rw [show (turn.tookFromClient frame batch).session.client.isOpen =
        turn.session.client.isOpen from rfl,
      show (turn.tookFromClient frame batch).session.player =
        (turn.session.fromClient batch).player from rfl] at departs
    simpa [Session.pendingLink, met] using departs

/-- A frame from the client reaches the milestones that are due with it. -/
theorem reaches_onClient (tidy : turn.session.Tidy) (going : turn.session.exit = none)
    (underway : turn.session.Underway) : (onClient frame).Reaches turn
      (turn.session.due (.event (.client (some frame)))) := by
  cases decoded : (turn.session.client.connection.decode frame).1 with
  | error fault =>
    rw [Session.due_of_undecoded decoded]
    exact (leads_onClient_of_error decoded).mpr (.of_outputs
      ⟨tidy.client.of_same rfl rfl, tidy.backend, tidy.active, tidy.pending⟩ rfl
      milestones_decodingCounted)
  | ok batch =>
    have took := @tookFromClient_reaches turn frame batch tidy
    have same := (@process_client .serverbound turn.session.client.connection.version
      turn.session.player batch).1
    refine (leads_onClient decoded).mpr ?_
    cases locked : turn.session.player.isLocked with
    | false =>
      have free : (turn.tookFromClient frame batch).session.player.isLocked = false :=
        (congrArg (Option.any Transfer.isLocked) same).trans locked
      have queued : (turn.session.fromClient batch).batch.skipQueue = false :=
        Bridge.process_skipQueue.trans (Connection.decode_skipQueue decoded)
      refine (leads_passOut took.tidy free queued
        (Bridge.process_passing (Connection.decode_received decoded)) _).mono ?_
        fun _ _ => False.elim
      rintro _ after ⟨passed, exit, known, client, link⟩
      have here := took.still passed
      exact (reaches_asked_of_free (underway.2 going) locked decoded here.tidy (exit.trans going)
        known (by rw [client]; rfl) link).fromNothing here
    | true =>
      have lock : (turn.session.fromClient batch).player.isLocked = true :=
        (congrArg (Option.any Transfer.isLocked) same).trans locked
      simp only [lock, Bool.not_true, Bool.and_false, Bool.false_eq_true, if_false, leads_pure]
      exact (reaches_asked_of_locked tidy going (underway.2 going) locked decoded).fromNothing took

/-- A backend that sends the player away is no milestone. -/
theorem reaches_actAll_kicked (tidy : turn.session.Tidy) (going : turn.session.exit = none)
    (underway : turn.session.Underway)
    (asked : ∀ action ∈ actions, ∃ message, action = .kicked message) :
    (actAll .backend actions).Reaches turn [] := by
  have all : (actAll .backend actions).Leads turn
      (fun _ after => turn.Reaches [] after ∧ after.session.Underway)
      fun _ after => turn.Reaches [] after := by
    refine leads_actAll (fun after => turn.Reaches [] after ∧ after.session.Underway)
      ?_ going ⟨.refl tidy, underway⟩
    rintro action mem here goes ⟨reached, kept⟩
    obtain ⟨message, rfl⟩ := asked action mem
    have lost : (act .backend (.kicked message)).Reaches here [] :=
      reaches_loseBackend reached.tidy (kept.2 goes)
    exact ((lost.from reached).and (staysUnderway_act kept (kept.2 goes))).mono
      (fun _ _ both => both) fun _ _ both => both.1
  exact all.mono (fun _ _ both => both.1) fun _ _ kept => kept

/-- A frame of the backend reaches nothing. -/
theorem reaches_onBackend (tidy : turn.session.Tidy) (going : turn.session.exit = none)
    (underway : turn.session.Underway) : (onBackend frame).Reaches turn [] := by
  cases on : turn.session.backend with
  | none => exact (leads_onBackend_of_none on).mpr (.refl tidy)
  | some backend =>
    have opened : turn.Reaches [] ⟨{ turn.session with
        backend := some { backend with peer := backend.peer.decoding frame } },
        turn.outputs ++ backend.peer.decodingCounted frame⟩ :=
      .of_outputs (opened_proceeds tidy on).passes.tidy rfl milestones_decodingCounted
    cases decoded : (backend.peer.connection.decode frame).1 with
    | error fault => exact (leads_onBackend_of_error on decoded).mpr opened
    | ok batch =>
      cases locked : turn.session.player.isLocked with
      | true => exact (leads_onBackend_of_locked on locked decoded).mpr opened
      | false =>
        have isFree : turn.session.IsFree := ⟨going, underway, locked⟩
        have still := @tookFromBackend_isFree turn frame backend batch on isFree
        have took : turn.Reaches [] (turn.tookFromBackend backend frame batch) := by
          refine .of_outputs (tookFromBackend_proceeds tidy on isFree).passes.tidy
            (List.append_assoc _ _ _) ?_
          rw [milestones_append, milestones_decodingCounted, milestones_counted]
          rfl
        have asked := (@process_backend .clientbound backend.peer.connection.version
          turn.session.player batch backend.server).2
        have queued : (turn.session.fromBackend backend batch).batch.skipQueue = false :=
          Bridge.process_skipQueue.trans (Connection.decode_skipQueue decoded)
        have written : (if !(turn.session.fromBackend backend batch).batch.packets.isEmpty then
              toClient fun peer => peer.write (turn.session.fromBackend backend batch).batch
            else pure ()).Leads (turn.tookFromBackend backend frame batch)
            (fun _ after => turn.Reaches [] after ∧ after.session.IsFree)
            fun _ after => turn.Reaches [] after := by
          split
          · exact (((reaches_write_toClient took.tidy queued).from took).and
              (leads_toClient_keeps Session.IsFree fun client =>
                still.congr rfl rfl rfl rfl rfl rfl)).mono (fun _ _ both => both)
              fun _ _ both => both.1
          · exact ⟨took, still⟩
        refine (leads_onBackend on locked decoded).mpr (written.mono ?_ fun _ _ here => here)
        rintro _ after ⟨here, goes, kept, -⟩
        exact (reaches_actAll_kicked here.tidy goes kept asked).from here

/-! ## Frames from a new backend -/

/-- What a new backend asks for, other than to start a transfer, is no milestone. -/
theorem reaches_actAll_pending (tidy : turn.session.Tidy) (going : turn.session.exit = none)
    (quiet : ∀ action ∈ actions, action.isOfArrival = true ∧ action.isStart = false)
    (noWord : ∀ action ∈ actions, action.IsNoWord) : (actAll .pending actions).Reaches turn [] := by
  refine leads_actAll (fun after => turn.Reaches [] after) ?_ going (.refl tidy)
  intro action mem here _ reached
  obtain ⟨own, starts⟩ := quiet action mem
  have reaches : (act .pending action).Reaches here [] := by
    cases action with
    | reply packet =>
      have silent := noWord _ mem packet rfl
      exact @reaches_toPending here [packet] reached.tidy (List.forall_mem_singleton.mpr silent)
    | transferFailed message => exact reaches_failTransfer reached.tidy
    | transferStarted teardown => cases starts
    | dimensionChanged => cases own
    | kicked message => cases own
  exact reaches.from reached

/-- With the start of a transfer the client is sent away, unless it is gone. -/
theorem reaches_startTransfer {teardown : List Packet} (tidy : turn.session.Tidy)
    (moving : turn.session.player.transfer = some transfer) (away : transfer.phase = .departing) :
    (startTransfer teardown).Reaches turn (if turn.session.client.isOpen then
      [.directed (Batch.ahead (teardown ++ turn.session.player.departurePackets transfer))]
      else []) := by
  have setOff : turn.Reaches []
      ⟨turn.session.setOff transfer, turn.outputs ++ [.packsRebuilt]⟩ :=
    .of_outputs (setOff_sends tidy moving away).tidy rfl rfl
  refine (leads_startTransfer moving).mpr ((reaches_sendNow setOff.tidy ?_).fromNothing setOff)
  simp [Player.departurePackets]

/-- A backend that spawns the player sends the client away from the old one, unless it has refused
the player before. -/
theorem reaches_spawn (going : turn.session.exit = none)
    (course : turn.session.Course) (spawns : turn.session.Spawns frame pending batch)
    (took : turn.Reaches [] (turn.tookFromPending pending frame batch)) :
    (actAll .pending (turn.session.askedByPending pending batch)).Leads
      (turn.tookFromPending pending frame batch)
      (fun _ after => turn.Reaches (turn.session.due (.event (.pending (some frame)))) after)
      fun _ after => turn.Reaches (turn.session.due (.event (.pending (some frame)))) after := by
  obtain ⟨before, behind, asked, quiet, further, fails⟩ := spawns.asked
  obtain ⟨transfer, moving, away⟩ := spawns.departing course
  have noWord := @Session.askedByPending_noWord turn.session pending batch
  rw [asked, List.forall_mem_append, List.forall_mem_cons] at noWord
  obtain ⟨first, -, last⟩ := noWord
  have goes : (turn.tookFromPending pending frame batch).session.exit = none := going
  rw [asked, Session.due_of_spawns spawns moving]
  refine (leads_actAll_append goes).mpr ?_
  cases refuses : pending.refusesFirst batch with
  | true =>
    have ended := @ended_actAll_of_failed _ before goes quiet (fails.mpr refuses)
    simp only [Bool.not_true, Bool.and_false, Bool.false_eq_true, if_false]
    refine (((reaches_actAll_pending took.tidy goes quiet first).from took).and ended).mono ?_
      fun _ _ both => both.1
    rintro _ after ⟨here, still⟩
    split
    next on =>
      refine leads_actAll_cons.mpr ((leads_startTransfer_of_none still).mpr ?_)
      rw [if_pos on]
      exact (reaches_actAll_pending here.tidy (by simpa using on) further last).from here
    next => exact here
  | false =>
    have replies := replies_of_unfailed quiet fun failed => by simp [fails.mp failed] at refuses
    simp only [Bool.not_false, Bool.and_true]
    refine (((reaches_actAll_pending took.tidy goes quiet first).from took).and
      (answers_actAll took.tidy goes replies)).mono ?_ fun _ _ both => both.2.elim
    rintro _ after ⟨here, answered⟩
    have on : after.session.exit = none := answered.exit.trans goes
    have onward : after.session.player.transfer = some transfer := by
      rw [answered.player]
      exact moving
    rw [if_pos (by simp [on])]
    have starts := @reaches_startTransfer after transfer turn.session.player.scene.teardown
      here.tidy onward away
    rw [answered.client, answered.player] at starts
    refine leads_actAll_cons.mpr (starts.mono ?_ fun _ _ next => here.andThen next)
    intro _ after next
    have reached := here.andThen next
    split
    next on =>
      exact (reaches_actAll_pending reached.tidy (by simpa using on) further last).from reached
    next => exact reached

/-- A frame of a new backend reaches what is due with it. -/
theorem reaches_onPending (tidy : turn.session.Tidy) (going : turn.session.exit = none)
    (course : turn.session.Course) : (onPending frame).Reaches turn
      (turn.session.due (.event (.pending (some frame)))) := by
  cases met : turn.session.pending with
  | none =>
    rw [Session.due_of_unspawned (by simp [Session.spawning?, met])]
    exact (leads_onPending_of_none met).mpr (.refl tidy)
  | some pending =>
    cases decoded : (pending.peer.connection.decode frame).1 with
    | error fault =>
      have opened : turn.Reaches [] ⟨{ turn.session with
          pending := some { pending with peer := pending.peer.decoding frame } },
          turn.outputs ++ pending.peer.decodingCounted frame⟩ := by
        exact .of_outputs (tidy.withPending met rfl rfl) rfl milestones_decodingCounted
      rw [Session.due_of_unspawned (by simp [Session.spawning?, met, decoded])]
      exact (leads_onPending_of_error met decoded).mpr
        ((reaches_failTransfer opened.tidy).from opened)
    | ok batch =>
      have took : turn.Reaches [] (turn.tookFromPending pending frame batch) := by
        refine .of_outputs (tookFromPending_passes tidy course met).tidy
          (List.append_assoc _ _ _) ?_
        rw [milestones_append, milestones_decodingCounted, milestones_counted]
        rfl
      refine (leads_onPending met decoded).mpr ?_
      cases spawned : turn.session.spawning? frame with
      | some spawn =>
        have spawns := Session.spawning?_eq_some.mp spawned
        cases met.symm.trans spawns.met
        cases decoded.symm.trans spawns.decoded
        exact reaches_spawn going course spawns took
      | none =>
        have quiet := Session.askedByPending_of_unspawned met decoded spawned
        rw [Session.due_of_unspawned spawned]
        exact (reaches_actAll_pending took.tidy going quiet
          Session.askedByPending_noWord).from took

/-! ## Events -/

/-- Whatever happens to a playing session, it reaches the milestones that are due. -/
theorem reaches_onEvent {event : Event} (tidy : turn.session.Tidy)
    (going : turn.session.exit = none) (underway : turn.session.Underway) :
    (onEvent event).Reaches turn (turn.session.due (.event event)) := by
  have course := underway.2 going
  have leaving (exit : Exit) : turn.Reaches []
      { turn with session := { turn.session with exit := some exit } } :=
    .of_outputs ⟨tidy.client, tidy.backend, tidy.active, tidy.pending⟩
      (List.append_nil _).symm rfl
  cases event with
  | client frame =>
    cases frame with
    | some frame => exact reaches_onClient tidy going underway
    | none => exact leaving .clientGone
  | backend frame =>
    cases frame with
    | some frame => exact reaches_onBackend tidy going underway
    | none => exact reaches_loseBackend tidy course
  | pending frame =>
    cases frame with
    | some frame => exact reaches_onPending tidy going course
    | none => exact reaches_failTransfer tidy
  | connected attempt result => exact reaches_onConnected tidy
  | tick =>
    refine leads_bind.mpr ((reaches_flush_toClient tidy).mono ?_ fun _ _ here => here)
    intro _ after flushed
    exact (reaches_flush_toBackend flushed.tidy).from flushed
  | transfer server => exact reaches_onTransfer tidy
  | disconnect reason => exact leaving (.farewell reason)
  | severed link => exact SessionTurn.Reaches.refl tidy

end Work

/-- A farewell is no milestone. -/
theorem SessionTurn.closedDown_reaches {turn : SessionTurn} {exit : Exit}
    (tidy : turn.session.Tidy) : turn.Reaches [] (turn.closedDown exit) := by
  refine .of_outputs (closedDown_passes tidy).tidy
    (by rw [closedDown, List.append_assoc, List.append_assoc]) ?_
  rw [milestones_append, milestones_append, Work.milestones_pendingClosing tidy,
    Work.milestones_backendClosing tidy, tidy.client.isMute.milestones_close]
  · rfl
  · intro packet _
    exact Batch.milestones_of_queued tidy.client.isClient rfl

/-- Each move of a session reaches the milestones that are due with it, and no other ones. -/
theorem Session.move_reaches {session : Session} (move : Move) (sound : session.Sound) :
    milestones (session.move move).2 = session.due move := by
  obtain ⟨coherent, tidy⟩ := sound
  cases move with
  | push packet => exact milestones_counted
  | event event =>
    have reached {turn : SessionTurn} {due : List Milestone}
        (reaches : SessionTurn.Reaches ⟨session, []⟩ due turn) : milestones turn.outputs = due := by
      obtain ⟨more, grown, told⟩ := reaches.grown
      rw [grown]
      exact told
    cases coherent.handling event with
    | severed link => rfl
    | idle unplayed still same =>
      have nothing : session.due (.event event) = [] := by
        have alone : session.pending = none := by
          cases met : session.pending with
          | none => rfl
          | some pending => exact absurd (coherent.of_pending met).1 unplayed
        cases event with
        | client frame => cases frame <;> simp [due, still]
        | pending frame => cases frame <;> simp [due, spawning?, alone]
        | _ => rfl
      rw [nothing]
      simp only [Session.move, same, milestones_nil]
    | @joins server result _ bare same =>
      simp only [Session.move, same]
      cases result with
      | ok there => rfl
      | error message =>
        simp only [join, after_shutdown]
        exact reached (SessionTurn.closedDown_reaches tidy)
    | plays here playing going course =>
      refine handle_of_leads
        (fun turn => milestones turn.outputs = session.due (.event event)) playing here ?_
      have reaches : (Work.onEvent event).Reaches ⟨session, []⟩ (session.due (.event event)) :=
        Work.reaches_onEvent tidy going ⟨playing, fun _ => course⟩
      refine reaches.mono ?_ ?_
      · intro _ after next
        exact ⟨fun _ => reached next, fun _ _ =>
          reached (next.still (SessionTurn.closedDown_reaches next.tidy))⟩
      · intro _ after next
        exact reached (next.still (SessionTurn.closedDown_reaches next.tidy))

end Ferry
