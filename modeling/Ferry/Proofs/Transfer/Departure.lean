import Ferry.Proofs.Session.PacketAccount
import Ferry.Proofs.Session.SpawningFrame

/-!
# While the client is on its way out

A client is locked by a frame of a new backend that spawns the player, and stays locked until it
says that it has left the old backend. Meanwhile all that the new backend sends for the client
waits, in order, and nothing else is done to it.
-/

namespace Ferry

/-! ## What a new backend causes -/

/-- What the client is told because of an action of a new backend. -/
def Player.departureFor (player : Player) (transfer : Transfer) : Action → List Packet
  | .transferStarted teardown => teardown ++ player.departurePackets transfer
  | _ => []

/-- From one turn to another a transfer went on, and the client was told some packets. -/
structure SessionTurn.GoesOn (turn : SessionTurn) (packets : List Packet)
    (after : SessionTurn) : Prop where
  player : ∃ dimension,
    after.session.player = { turn.session.player with dimension := dimension }
  link : after.session.pending.map (fun pending => pending.peer.link) =
    turn.session.pending.map fun pending => pending.peer.link
  heard : ∃ more, after.outputs = turn.outputs ++ more ∧
    heardOn LinkId.isClient more = packets.map BatchPacket.made

namespace SessionTurn

variable {turn middle after : SessionTurn} {packets others : List Packet}

/-- Where nothing is done, the transfer goes on. -/
theorem GoesOn.refl : turn.GoesOn [] turn :=
  ⟨⟨_, rfl⟩, rfl, [], (List.append_nil _).symm, rfl⟩

/-- A transfer that goes on twice goes on, and the client is told both. -/
theorem GoesOn.trans (here : turn.GoesOn packets middle) (next : middle.GoesOn others after) :
    turn.GoesOn (packets ++ others) after := by
  obtain ⟨dimension, player⟩ := here.player
  obtain ⟨further, onward⟩ := next.player
  obtain ⟨more, grown, told⟩ := here.heard
  obtain ⟨rest, last, heard⟩ := next.heard
  refine ⟨⟨further, by rw [onward, player]⟩, next.link.trans here.link, more ++ rest, ?_, ?_⟩
  · rw [last, grown, List.append_assoc]
  · rw [heardOn_append, told, heard, List.map_append]

/-- A transfer that goes on is the same. -/
theorem GoesOn.transfer (goesOn : turn.GoesOn packets after) :
    after.session.player.transfer = turn.session.player.transfer := by
  obtain ⟨dimension, player⟩ := goesOn.player
  rw [player]

/-- What the client is told when a transfer starts does not depend on its dimension. -/
theorem GoesOn.departurePackets (goesOn : turn.GoesOn packets after) :
    after.session.player.departurePackets = turn.session.player.departurePackets := by
  obtain ⟨dimension, player⟩ := goesOn.player
  rw [player]
  rfl

end SessionTurn

namespace Work

variable {turn : SessionTurn} {transfer : Transfer}

/-- What a new backend asks for ends the transfer, or lets it go on. -/
theorem goesOn_act {action : Action} (tidy : turn.session.Tidy)
    (moving : turn.session.player.transfer = some transfer) (own : action.isOfArrival = true) :
    (act .pending action).Leads turn
      (fun _ after => after.session.player.transfer = none ∨
        (∀ message, action ≠ .transferFailed message) ∧
          turn.GoesOn (turn.session.player.departureFor transfer action) after)
      fun _ _ => True := by
  cases action with
  | reply packet =>
    simp only [act, reply]
    cases met : turn.session.pending with
    | none => exact (leads_toPending_of_none met).mpr (.inr ⟨by simp, .refl⟩)
    | some pending =>
      have faces := (tidy.pending pending met).1
      rw [leads_toPending met, leads_check]
      cases tolerate (pending.peer.sendNow [packet]).1 with
      | error fault => exact trivial
      | ok done =>
        refine .inr ⟨by simp, ⟨_, rfl⟩, ?_, _, rfl, ?_⟩
        · simp [met]
        · rw [Peer.heardOn_sendNow, faces.isClient]
          rfl
  | transferStarted teardown =>
    refine (leads_startTransfer moving).mpr ((leads_told ?_).mpr ?_)
    · simp [Player.departurePackets]
    · split
      next opened =>
        have alive : turn.session.client.isOpen = true := opened
        have heard := @Peer.heardOn_sendNow turn.session.client LinkId.isClient
          (teardown ++ turn.session.player.departurePackets transfer)
        rw [tidy.client.isClient, alive] at heard
        refine .inr ⟨by simp, ⟨_, rfl⟩, rfl, .packsRebuilt :: _, List.append_assoc _ _ _, ?_⟩
        exact heardOn_packsRebuilt.trans heard
      next => exact trivial
  | transferFailed message =>
    have aimed : destination turn.session = some transfer.target := by simp [destination, moving]
    refine leads_failTransfer.mpr ?_
    rw [aimed]
    exact .inl SessionTurn.abandoned_transfer
  | dimensionChanged => cases own
  | kicked message => cases own

/-- A transfer that has gone on through all that a new backend asks for was not failed. -/
theorem goesOn_actAll {actions : List Action} (tidy : turn.session.Tidy)
    (going : turn.session.exit = none)
    (moving : turn.session.player.transfer = some transfer) (locked : transfer.isLocked = true)
    (own : ∀ action ∈ actions, action.isOfArrival = true) :
    (actAll .pending actions).Leads turn
      (fun _ after => after.session.exit = none → after.session.player.isLocked = true →
        (∀ message, .transferFailed message ∉ actions) ∧
          turn.GoesOn (actions.flatMap (turn.session.player.departureFor transfer)) after)
      fun _ _ => True := by
  induction actions generalizing turn with
  | nil => exact fun _ _ => ⟨by simp, .refl⟩
  | cons action rest ih =>
    obtain ⟨first, others⟩ := List.forall_mem_cons.mp own
    have away : ∀ other, turn.session.player.transfer = some other → other.isLocked = true := by
      intro other same
      cases moving.symm.trans same
      exact locked
    have step := (quiet_act_pending tidy away first).and (goesOn_act tidy moving first)
    refine leads_actAll_cons.mpr (step.mono ?_ fun _ _ _ => trivial)
    rintro _ after ⟨proceeds, outcome⟩
    split
    next goes =>
      have goes : after.session.exit = none := by simpa using goes
      rcases outcome with ended | ⟨unfailed, goesOn⟩
      · refine (ended_actAll_pending goes ended others).mono ?_ fun _ _ _ => trivial
        intro _ last finished _ locked
        exact by simp [Player.isLocked, finished] at locked
      · have rests := ih proceeds.passes.tidy goes (goesOn.transfer.trans moving) others
        refine rests.mono (fun _ last stays exit locked => ?_) fun _ _ _ => trivial
        obtain ⟨silent, further⟩ := stays exit locked
        refine ⟨fun message mem => ?_, ?_⟩
        · rcases List.mem_cons.mp mem with same | mem
          · exact unfailed message same.symm
          · exact silent message mem
        · have told : after.session.player.departureFor transfer =
              turn.session.player.departureFor transfer := by
            funext other
            cases other <;> simp [Player.departureFor, goesOn.departurePackets]
          rw [told] at further
          exact goesOn.trans further
    next ends => exact fun exit => absurd exit (by simpa using ends)

end Work

/-! ## What waits -/

namespace Session

/-- What waits for a client that is on its way out. -/
def held (session : Session) : List BatchPacket :=
  match session.player.transfer with
  | some transfer => if transfer.isLocked then transfer.waiting.packets else []
  | none => []

/-- The packets of a frame from a new backend that are for the client: those that are let
through, but for events that are only seen. -/
def arrivals (session : Session) (frame : Bytes) : List BatchPacket :=
  match session.pending with
  | none => []
  | some pending =>
    match (pending.peer.connection.decode frame).1 with
    | .ok batch =>
      (session.sentSinceSpawn pending batch).filter fun packet => !Waiting.isDropped packet
    | .error _ => []

variable {session : Session} {pending : PendingBackend} {batch : Batch}

/-- While the client is on its way out, what waits is held for it. -/
theorem held_of_locked {transfer : Transfer} (moving : session.player.transfer = some transfer)
    (locked : transfer.phase = .departing) : session.held = transfer.waiting.packets := by
  simp [held, moving, Transfer.isLocked, locked]

/-- Without a transfer nothing is held. -/
theorem held_of_none (still : session.player.transfer = none) : session.held = [] := by
  simp [held, still]

/-- All that was let through waits, unless there was too much of it. -/
theorem keptFromPending_waiting {transfer : Transfer}
    (moving : (session.keptFromPending pending batch).1.transfer = some transfer)
    (unfailed : ∀ message,
      .transferFailed message ∉ (session.keptFromPending pending batch).2) :
    ∃ base, (session.fromPending pending batch).player.transfer = some base ∧
      transfer.waiting.packets = base.waiting.packets ++
        (session.sentSinceSpawn pending batch).filter fun packet => !Waiting.isDropped packet := by
  rw [← fromPending_packets]
  unfold keptFromPending at *
  dsimp only at *
  split at moving
  next goes =>
    rw [if_pos goes] at unfailed
    rw [Work.keepWaiting_player] at moving
    obtain ⟨base, began, rfl⟩ := Option.map_eq_some_iff.mp moving
    refine ⟨base, began, ?_⟩
    cases pushed : (base.waiting.push (session.fromPending pending batch).batch).1 with
    | error fault => simp [Work.keepWaiting, began, pushed] at unfailed
    | ok done => exact Waiting.push_packets pushed
  next stops =>
    have empty : (session.fromPending pending batch).batch.packets = [] := by
      cases started : (session.fromPending pending batch).state.started with
      | false => exact fromPending_of_login started
      | true => simpa [started] using stops
    exact ⟨transfer, moving, by rw [empty]; simp⟩

end Session

/-- From one turn to another a new backend has sent a frame that leaves the client locked. -/
structure SessionTurn.Brings (turn : SessionTurn) (frame : Bytes) (after : SessionTurn) :
    Prop where
  link : after.session.pending.map (fun pending => pending.peer.link) =
    turn.session.pending.map fun pending => pending.peer.link
  held : after.session.held = turn.session.held ++ turn.session.arrivals frame
  /-- A client that was free is sent away from the old backend. -/
  sentAway : turn.session.player.isLocked = false → ∃ scene transfer more,
    after.session.player.transfer = some transfer ∧ after.outputs = turn.outputs ++ more ∧
      heardOn LinkId.isClient more = (Scene.teardown scene ++
        after.session.player.departurePackets transfer).map BatchPacket.made

namespace Work

variable {turn : SessionTurn} {frame : Bytes}

/-- Only actions that start a transfer tell the client anything. -/
theorem departureFor_flatMap {player : Player} {transfer : Transfer} {actions : List Action} :
    actions.flatMap (player.departureFor transfer) =
      (actions.filter Action.isStart).flatMap (player.departureFor transfer) := by
  induction actions with
  | nil => rfl
  | cons action rest ih =>
    cases action with
    | transferStarted teardown =>
      rw [List.filter_cons_of_pos rfl, List.flatMap_cons, List.flatMap_cons, ih]
    | _ => exact ih

/-- What waits once a new backend has spawned the player, and what it has started. -/
theorem fromPending_base {pending : PendingBackend} {batch : Batch} {base : Transfer}
    (course : turn.session.Course) (met : turn.session.pending = some pending)
    (moving : (turn.session.fromPending pending batch).player.transfer = some base) :
    base.waiting.packets = turn.session.held ∧ (turn.session.player.isLocked = false →
      ∃ scene, (turn.session.fromPending pending batch).actions.filter Action.isStart =
        [.transferStarted (Scene.teardown scene)]) := by
  have progress := fromPending_progress turn.session pending batch
  rw [moving] at progress
  generalize (turn.session.fromPending pending batch).state = state at progress
  generalize (turn.session.fromPending pending batch).actions = actions at progress ⊢
  rcases course.of_pending met with ⟨login, still⟩ | ⟨transfer, game, there, away, -⟩
  · rw [still] at progress
    have empty := Session.held_of_none still
    cases progress with
    | spawned _ isFresh _ once =>
      exact ⟨by rw [isFresh.waiting, empty]; rfl, fun _ => ⟨_, once⟩⟩
    | goesOn game => simp [login] at game
  · have bound : turn.session.player.isLocked = true := by
      simp [Player.isLocked, there, Transfer.isLocked, away]
    refine ⟨?_, by simp [bound]⟩
    rw [Session.held_of_locked there away]
    rw [there] at progress
    generalize arrived : some base = kept at progress
    cases progress with
    | loggingIn login => simp [game] at login
    | spawned login => simp [game] at login
    | goesOn _ aim =>
      rcases aim with rfl | ⟨dimension, rfl⟩
      · cases arrived
        rfl
      · cases arrived
        rfl

/-- Nothing but what a new backend causes itself is asked for, unless its packets were too many
to wait. -/
theorem askedByPending_of_unfailed {session : Session} {pending : PendingBackend} {batch : Batch}
    (unfailed : ∀ message, .transferFailed message ∉ session.askedByPending pending batch) :
    session.askedByPending pending batch = (session.fromPending pending batch).actions := by
  have silent : (session.keptFromPending pending batch).2 = [] := by
    refine List.eq_nil_iff_forall_not_mem.mpr fun action mem => ?_
    obtain ⟨message, rfl⟩ := keptFromPending_actions mem
    exact unfailed message (List.mem_append_right _ mem)
  rw [Session.askedByPending, silent, List.append_nil]

/-- What it means for the client that a transfer goes on through all that a new backend asks for
with a frame. -/
theorem brings_of_goesOn {pending : PendingBackend} {batch : Batch} {transfer : Transfer}
    {after : SessionTurn} (course : turn.session.Course)
    (met : turn.session.pending = some pending)
    (decoded : (pending.peer.connection.decode frame).1 = .ok batch)
    (moving : (turn.tookFromPending pending frame batch).session.player.transfer = some transfer)
    (away : transfer.phase = .departing)
    (unfailed : ∀ message, .transferFailed message ∉ turn.session.askedByPending pending batch)
    (goesOn : (turn.tookFromPending pending frame batch).GoesOn
      ((turn.session.askedByPending pending batch).flatMap
        ((turn.tookFromPending pending frame batch).session.player.departureFor transfer))
      after) : turn.Brings frame after := by
  obtain ⟨more, grown, told⟩ := goesOn.heard
  obtain ⟨base, began, packets⟩ := Session.keptFromPending_waiting moving
    fun message mem => unfailed message (List.mem_append_right _ mem)
  obtain ⟨held, starts⟩ := fromPending_base course met began
  have onward := goesOn.transfer.trans moving
  refine ⟨?_, ?_, fun free => ?_⟩
  · simpa [SessionTurn.tookFromPending, met] using goesOn.link
  · rw [Session.held_of_locked onward away, packets, held]
    simp [Session.arrivals, met, decoded]
  · obtain ⟨scene, once⟩ := starts free
    rw [departureFor_flatMap, askedByPending_of_unfailed unfailed, once] at told
    refine ⟨scene, transfer, pending.peer.decodingCounted frame ++
      (turn.session.fromPending pending batch).counted.map Output.counted ++ more, onward, ?_, ?_⟩
    · simp [grown, SessionTurn.tookFromPending]
    · rw [heardOn_append, heardOn_append, Peer.decodingCounted_silent, heardOn_counted, told,
        goesOn.departurePackets]
      simp [Player.departureFor]

/-- What a frame of a new backend leads to that leaves the client locked. -/
theorem brings_onPending (tidy : turn.session.Tidy) (going : turn.session.exit = none)
    (course : turn.session.Course) : (onPending frame).Leads turn
      (fun _ after => after.session.exit = none → after.session.player.isLocked = true →
        turn.Brings frame after)
      fun _ _ => True := by
  cases met : turn.session.pending with
  | none =>
    refine (leads_onPending_of_none met).mpr fun _ locked => ?_
    obtain ⟨pending, _, there, -⟩ := course.of_locked locked
    cases met.symm.trans there
  | some pending =>
    cases decoded : (pending.peer.connection.decode frame).1 with
    | error fault =>
      refine (leads_onPending_of_error met decoded).mpr (leads_failTransfer.mpr ?_)
      split
      next target aimed =>
        intro _ locked
        exact by simp [Player.isLocked] at locked
      next nowhere =>
        cases moving : turn.session.player.transfer <;> simp [destination, moving] at nowhere
    | ok batch =>
      have onward := @course_of_pending turn frame pending batch course met
      have own : ∀ action ∈ turn.session.askedByPending pending batch,
          action.isOfArrival = true := fun _ mem => askedByPending_own mem
      have took := @tookFromPending_passes turn frame pending batch tidy course met
      refine (leads_onPending met decoded).mpr ?_
      rcases onward.of_pending rfl with ⟨-, still⟩ | ⟨transfer, -, moving, away, -⟩
      · have ended :=
          @ended_actAll_pending (turn.tookFromPending pending frame batch) _ going still own
        refine ended.mono ?_ fun _ _ _ => trivial
        intro _ after finished _ locked
        exact by simp [Player.isLocked, finished] at locked
      · have locked : transfer.isLocked = true := by simp [Transfer.isLocked, away]
        refine (goesOn_actAll took.tidy going moving locked own).mono ?_ fun _ _ _ => trivial
        intro _ after stays exit bound
        obtain ⟨unfailed, goesOn⟩ := stays exit bound
        exact brings_of_goesOn course met decoded moving away unfailed goesOn

end Work

end Ferry
