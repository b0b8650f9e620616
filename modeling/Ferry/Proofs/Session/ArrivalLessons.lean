import Ferry.Proofs.Session.EventLessons

/-!
# What is learned from a new backend

A batch that spawns the player sends the client away from the old backend, unless it has refused
the player before. Nothing else that a new backend sends tells the client anything. With this, what
any event of a session teaches.
-/

namespace Ferry

namespace Work

variable {turn : SessionTurn} {event : Event}

/-! ## What a new backend asks for -/

/-- A new backend that neither starts a transfer nor fails one asks for answers only. -/
theorem replies_of_unfailed {actions : List Action}
    (quiet : ∀ action ∈ actions, action.isOfArrival = true ∧ action.isStart = false)
    (unfailed : ¬∃ message, Action.transferFailed message ∈ actions) :
    ∀ action ∈ actions, ∃ packet, action = .reply packet := by
  intro action mem
  obtain ⟨own, starts⟩ := quiet action mem
  cases action with
  | reply packet => exact ⟨packet, rfl⟩
  | transferFailed message => exact absurd ⟨message, mem⟩ unfailed
  | transferStarted teardown => cases starts
  | dimensionChanged => cases own
  | kicked message => cases own

/-- A backend that asks for answers only is answered. -/
theorem answers_actAll {actions : List Action} (tidy : turn.session.Tidy)
    (going : turn.session.exit = none)
    (answers : ∀ action ∈ actions, ∃ packet, action = .reply packet) :
    (actAll .pending actions).Leads turn (fun _ after => turn.Answers after)
      fun _ _ => False := by
  refine leads_actAll (fun after => turn.Answers after) ?_ going (.refl tidy)
  intro action mem here _ kept
  obtain ⟨packet, rfl⟩ := answers action mem
  simp only [act, reply]
  exact (answers_sendNow kept.sends.tidy).mono (fun _ _ next => kept.trans next) fun _ _ => id

/-- A transfer that is failed has ended. -/
theorem ended_failTransfer {message : String} : (failTransfer message).Leads turn
    (fun _ after => after.session.player.transfer = none) fun _ _ => True := by
  refine leads_failTransfer.mpr ?_
  cases moving : turn.session.player.transfer with
  | some transfer => simp [destination, moving]
  | none =>
    split
    · exact SessionTurn.abandoned_transfer
    · exact rfl

/-- Where a new backend fails the transfer, none is in progress afterwards. -/
theorem ended_actAll_of_failed {actions : List Action} (going : turn.session.exit = none)
    (own : ∀ action ∈ actions, action.isOfArrival = true ∧ action.isStart = false)
    (fails : ∃ message, .transferFailed message ∈ actions) :
    (actAll .pending actions).Leads turn
      (fun _ after => after.session.player.transfer = none) fun _ _ => True := by
  induction actions generalizing turn with
  | nil => simp at fails
  | cons action rest ih =>
    obtain ⟨first, others⟩ := List.forall_mem_cons.mp own
    refine leads_actAll_cons.mpr ?_
    cases action with
    | reply packet =>
      have further : ∃ message, Action.transferFailed message ∈ rest := by simpa using fails
      have goes : (act .pending (.reply packet)).Leads turn
          (fun _ after => after.session.exit = none) fun _ _ => True := by
        simp only [act, reply]
        exact leads_toPending_keeps (fun session => session.exit = none) going fun _ _ _ => going
      refine goes.mono (fun _ after goes => ?_) fun _ _ _ => trivial
      rw [if_pos (by simp [goes])]
      exact ih goes others further
    | transferFailed message =>
      refine ended_failTransfer.mono (fun _ after ended => ?_) fun _ _ _ => trivial
      split
      next goes =>
        exact ended_actAll_pending (by simpa using goes) ended fun other mem => (others other mem).1
      next => exact ended
    | transferStarted teardown => cases first.2
    | dimensionChanged => cases first.1
    | kicked message => cases first.1

/-- Stopping the queue of the old backend tells the client nothing. -/
theorem setOff_sends {transfer : Transfer} (tidy : turn.session.Tidy)
    (moving : turn.session.player.transfer = some transfer) (away : transfer.phase = .departing) :
    turn.Sends [] ⟨turn.session.setOff transfer, turn.outputs ++ [.packsRebuilt]⟩ := by
  refine .silent ⟨tidy.client, ?_, ?_, tidy.pending⟩ rfl rfl rfl
  · rintro backend on
    obtain ⟨there, was, rfl⟩ := Option.map_eq_some_iff.mp on
    obtain ⟨link, empty, unheld, alive⟩ := tidy.backend there was
    exact ⟨link, empty, unheld, alive⟩
  · intro backend on free
    simp [Session.setOff, Player.isLocked, moving, Transfer.isLocked, away] at free

/-- The client is sent away from the old backend. -/
theorem sends_startTransfer {teardown : List Packet} {transfer : Transfer}
    (tidy : turn.session.Tidy) (moving : turn.session.player.transfer = some transfer)
    (away : transfer.phase = .departing) :
    (startTransfer teardown).Leads turn
      (fun _ after => turn.session.client.isOpen = true ∧
        turn.Sends [Batch.ahead (teardown ++ turn.session.player.departurePackets transfer)] after ∧
        after.session.exit = turn.session.exit ∧
        after.session.player =
          { turn.session.player with dimension := transfer.temporaryDimension })
      fun _ after => turn.session.client.isOpen = false ∧ turn.Chats after := by
  have setOff := setOff_sends tidy moving away
  refine (leads_startTransfer moving).mpr ((sends_told setOff.tidy ?_).mono ?_ ?_)
  · simp [Player.departurePackets]
  · rintro _ after ⟨opened, sends, client, same, -⟩
    exact ⟨opened, setOff.trans sends, by rw [same]; rfl, by rw [same]; rfl⟩
  · rintro _ after ⟨closed, chats⟩
    exact ⟨closed, setOff.andThen chats⟩

/-! ## Frames from a new backend -/

variable {frame : Bytes} {pending : PendingBackend} {batch : Batch}

/-- Opening a frame of a new backend and looking at it tells the client nothing. -/
theorem tookFromPending_sends (tidy : turn.session.Tidy) (course : turn.session.Course)
    (met : turn.session.pending = some pending) :
    turn.Sends [] (turn.tookFromPending pending frame batch) := by
  refine .silent (tookFromPending_passes tidy course met).tidy rfl (List.append_assoc _ _ _) ?_
  rw [heardBatches_append, heardBatches_decodingCounted, heardBatches_counted]
  rfl

/-- A backend that has refused the player before it spawns it sends nobody away. -/
theorem teaches_refused (tidy : turn.session.Tidy) (going : turn.session.exit = none)
    (course : turn.session.Course) (spawns : turn.session.Spawns frame pending batch)
    (refuses : pending.refusesFirst batch = true) :
    (onPending frame).Teaches turn turn (.pending (some frame)) := by
  obtain ⟨before, behind, asked, quiet, further, fails⟩ := spawns.asked
  have took := @tookFromPending_sends turn frame pending batch tidy course spawns.met
  have learns : turn.session.Learns (.pending (some frame)) _ _ := .refused spawns refuses
  have goes : (turn.tookFromPending pending frame batch).session.exit = none := going
  have ended := @ended_actAll_of_failed _ before goes quiet (fails.mpr refuses)
  refine (leads_onPending spawns.met spawns.decoded).mpr ?_
  rw [asked]
  refine (leads_actAll_append goes).mpr
    (((idle_actAll_pending took.tidy goes quiet).and ended).mono ?_ ?_)
  · rintro _ after ⟨idles, still⟩
    have remains : after.session.player.Remains
        { (turn.session.keptFromPending pending batch).1 with transfer := none } :=
      ⟨idles.player.dimension, idles.player.scene, .inl still⟩
    have hears : turn.Hears [] after := took.andThen idles.chats
    split
    next goes =>
      refine leads_actAll_cons.mpr ((leads_startTransfer_of_none still).mpr ?_)
      rw [if_pos goes]
      exact (idle_actAll_pending hears.tidy (by simpa using goes) further).teaches learns hears
        remains
    next => exact ⟨_, _, learns, hears, remains⟩
  · rintro _ after ⟨chats, -⟩
    exact ⟨_, .inl rfl, took.andThen chats⟩

/-- A backend that spawns the player sends the client away from the old one, if the client is
open. -/
theorem leads_sentAway {transfer : Transfer} (tidy : turn.session.Tidy)
    (going : turn.session.exit = none) (spawns : turn.session.Spawns frame pending batch)
    (accepts : pending.refusesFirst batch = false)
    (moving : (turn.session.keptFromPending pending batch).1.transfer = some transfer)
    (away : transfer.phase = .departing) (course : turn.session.Course) :
    (onPending frame).Leads turn
      (fun _ after => turn.session.client.isOpen = true ∧
        turn.Hears [turn.session.departureBatch pending batch transfer] after ∧
        after.session.player.Remains { (turn.session.keptFromPending pending batch).1 with
          dimension := transfer.temporaryDimension })
      fun _ after => turn.Hears (if turn.session.client.isOpen then
        [turn.session.departureBatch pending batch transfer] else []) after := by
  obtain ⟨before, behind, asked, quiet, further, fails⟩ := spawns.asked
  have took := @tookFromPending_sends turn frame pending batch tidy course spawns.met
  have replies := replies_of_unfailed quiet fun failed => by simp [fails.mp failed] at accepts
  have starts : (turn.tookFromPending pending frame batch).session.exit = none := going
  refine (leads_onPending spawns.met spawns.decoded).mpr ?_
  rw [asked]
  refine (leads_actAll_append starts).mpr ((answers_actAll took.tidy starts replies).mono ?_ ?_)
  · rintro _ after ⟨answered, exit, client, player⟩
    have goes : after.session.exit = none := exit.trans going
    have onward : after.session.player.transfer = some transfer := by
      rw [player]
      exact moving
    rw [if_pos (by simp [goes])]
    refine leads_actAll_cons.mpr ((sends_startTransfer answered.tidy onward away).mono ?_ ?_)
    · rintro _ last ⟨opened, sends, stays, known⟩
      rw [client] at opened
      rw [player] at sends known
      have hears : turn.Hears [turn.session.departureBatch pending batch transfer] last :=
        ((took.trans answered).trans sends).hears
      have remains : last.session.player.Remains
          { (turn.session.keptFromPending pending batch).1 with
            dimension := transfer.temporaryDimension } := by
        rw [known]
        exact .refl _
      rw [if_pos (by simp [stays, goes])]
      refine (idle_actAll_pending hears.tidy (stays.trans goes) further).mono ?_ ?_
      · intro _ after idles
        exact ⟨opened, hears.trans idles.chats, idles.player.trans remains⟩
      · intro _ after chats
        rw [if_pos (show turn.session.client.isOpen = true from opened)]
        exact hears.trans chats
    · rintro _ last ⟨closed, chats⟩
      rw [client] at closed
      rw [if_neg (by simpa using show turn.session.client.isOpen = false from closed)]
      exact (took.trans answered).andThen chats
  · intro _ after fault
    exact fault.elim

/-- A frame that spawns the player teaches that the client was sent away. -/
theorem teaches_sentAway (tidy : turn.session.Tidy) (going : turn.session.exit = none)
    (course : turn.session.Course) (spawns : turn.session.Spawns frame pending batch)
    (accepts : pending.refusesFirst batch = false) :
    (onPending frame).Teaches turn turn (.pending (some frame)) := by
  obtain ⟨transfer, moving, away⟩ := spawns.departing course
  refine (leads_sentAway tidy going spawns accepts moving away course).mono ?_ ?_
  · rintro _ after ⟨opened, hears, remains⟩
    exact ⟨_, _, .sentAway spawns accepts opened moving away, hears, remains⟩
  · intro _ after hears
    refine ⟨_, ?_, hears⟩
    split
    next opened => exact .inr ⟨_, .sentAway spawns accepts opened moving away⟩
    next => exact .inl rfl

/-- What a frame of a new backend teaches. -/
theorem teaches_onPending (tidy : turn.session.Tidy) (going : turn.session.exit = none)
    (course : turn.session.Course) :
    (onPending frame).Teaches turn turn (.pending (some frame)) := by
  cases met : turn.session.pending with
  | none =>
    have still : turn.session.arrivals frame = [] := by simp [Session.arrivals, met]
    exact (leads_onPending_of_none met).mpr
      ⟨_, _, .nothing still, SessionTurn.Chats.refl tidy, .refl _⟩
  | some pending =>
    cases decoded : (pending.peer.connection.decode frame).1 with
    | error fault =>
      have opened : turn.Idles ⟨{ turn.session with
          pending := some { pending with peer := pending.peer.decoding frame } },
          turn.outputs ++ pending.peer.decodingCounted frame⟩ := by
        exact ⟨.silent (tidy.withPending met rfl rfl) rfl rfl heardBatches_decodingCounted, .refl _⟩
      have still : turn.session.arrivals frame = [] := by simp [Session.arrivals, met, decoded]
      exact (leads_onPending_of_error met decoded).mpr
        ((idle_failTransfer opened.chats.tidy).teachesNothing opened still)
    | ok batch =>
      have took := @tookFromPending_sends turn frame pending batch tidy course met
      cases started : pending.arrival.started with
      | true =>
        have quiet : ∀ action ∈ turn.session.askedByPending pending batch,
            action.isOfArrival = true ∧ action.isStart = false := by
          refine List.forall_mem_append.mpr
            ⟨(fromPending_progress turn.session pending batch).quiet started, ?_⟩
          intro action mem
          obtain ⟨message, rfl⟩ := keptFromPending_actions mem
          exact ⟨rfl, rfl⟩
        exact (leads_onPending met decoded).mpr ((idle_actAll_pending took.tidy going quiet).teaches
          (.waited met started decoded) took.hears (.refl _))
      | false =>
        cases spawned : StartGame.first pending.peer.connection.version batch.packets with
        | none =>
          obtain ⟨player, quiet⟩ :=
            @Session.keptFromPending_of_login turn.session pending batch started spawned
          have idles : turn.Idles (turn.tookFromPending pending frame batch) := by
            refine ⟨took.hears, ?_⟩
            rw [show (turn.tookFromPending pending frame batch).session.player =
              turn.session.player from player]
            exact .refl _
          have still : turn.session.arrivals frame = [] := by
            simp [Session.arrivals, met, decoded, Session.sentSinceSpawn, started, spawned]
          exact (leads_onPending met decoded).mpr
            ((idle_actAll_pending took.tidy going quiet).teachesNothing idles still)
        | some first =>
          have spawns : turn.session.Spawns frame pending batch :=
            ⟨met, started, decoded, by rw [spawned]; rfl⟩
          cases refuses : pending.refusesFirst batch with
          | true => exact teaches_refused tidy going course spawns refuses
          | false => exact teaches_sentAway tidy going course spawns refuses

/-! ## Events -/

/-- What any event teaches. -/
theorem teaches_onEvent (tidy : turn.session.Tidy) (going : turn.session.exit = none)
    (underway : turn.session.Underway) : (onEvent event).Teaches turn turn event := by
  have idly {work : Work Unit} (idle : work.Idle turn)
      (still : turn.session.arrived (.event event) = []) : work.Teaches turn turn event :=
    idle.teachesNothing (.refl tidy) still
  have leaving (exit : Exit) : turn.Idles
      { turn with session := { turn.session with exit := some exit } } :=
    ⟨.silent ⟨tidy.client, tidy.backend, tidy.active, tidy.pending⟩ rfl
      (List.append_nil _).symm rfl, .refl _⟩
  cases event with
  | client frame =>
    cases frame with
    | some frame => exact teaches_onClient tidy going underway
    | none => exact idly (leaving .clientGone) rfl
  | backend frame =>
    cases frame with
    | some frame => exact teaches_onBackend tidy going underway
    | none => exact idly (idle_loseBackend tidy (underway.2 going)) rfl
  | pending frame =>
    cases frame with
    | some frame => exact teaches_onPending tidy going (underway.2 going)
    | none => exact idly (idle_failTransfer tidy) rfl
  | connected attempt result => exact idly (idle_onConnected tidy) rfl
  | tick => exact idly (idle_tick tidy) rfl
  | transfer server => exact idly (idle_onTransfer tidy) rfl
  | disconnect reason => exact idly (leaving (.farewell reason)) rfl
  | severed link => exact idly (.refl tidy) rfl

end Work

/-- What is learned from an event, and what the client hears of it. An event that ends the session
may leave the client with less. -/
theorem Session.handle_learns {session : Session} (event : Event) (sound : session.Sound) :
    (∃ player batches, session.Learns event player batches ∧
      SessionTurn.Hears ⟨session, []⟩ batches
        ⟨(session.handle event).1, (session.handle event).2⟩ ∧
      (session.handle event).1.player.Remains player) ∨
    (session.handle event).1.stage = .over ∧ ∃ batches, session.MayHear event batches ∧
      SessionTurn.Hears ⟨session, []⟩ batches
        ⟨(session.handle event).1, (session.handle event).2⟩ := by
  obtain ⟨coherent, tidy⟩ := sound
  cases coherent.handling event with
  | severed link =>
    have same : session.handle (.severed link) = (session.sever link, []) := by simp [handle]
    rw [same]
    refine .inl ⟨_, _, .nothing rfl, SessionTurn.Chats.silent (sever_passes link tidy).tidy ?_ rfl
      rfl, .refl _⟩
    simp only [sever]
    split <;> rfl
  | idle unplayed _ same =>
    have still : session.arrived (.event event) = [] := by
      have alone : session.pending = none := by
        cases met : session.pending with
        | none => rfl
        | some pending => exact absurd (coherent.of_pending met).1 unplayed
      cases event with
      | pending frame => cases frame <;> simp [arrived, arrivals, alone]
      | _ => rfl
    rw [same]
    exact .inl ⟨_, _, .nothing still, SessionTurn.Chats.refl tidy, .refl _⟩
  | @joins server result _ bare same =>
    rw [same]
    cases result with
    | ok there =>
      exact .inl ⟨_, _, .nothing rfl,
        SessionTurn.Chats.silent (join_passes tidy).tidy rfl rfl rfl, .refl _⟩
    | error message =>
      simp only [join, after_shutdown]
      exact .inr ⟨rfl, _, .inl rfl, SessionTurn.closedDown_chats tidy⟩
  | plays here playing going course =>
    refine handle_of_leads (fun turn => (∃ player batches, session.Learns event player batches ∧
        SessionTurn.Hears ⟨session, []⟩ batches turn ∧ turn.session.player.Remains player) ∨
      turn.session.stage = .over ∧ ∃ batches, session.MayHear event batches ∧
        SessionTurn.Hears ⟨session, []⟩ batches turn) playing here ?_
    have teaches : (Work.onEvent event).Teaches ⟨session, []⟩ ⟨session, []⟩ event :=
      Work.teaches_onEvent tidy going ⟨playing, fun _ => course⟩
    refine teaches.mono ?_ ?_
    · rintro _ after ⟨player, batches, learns, hears, remains⟩
      refine ⟨fun _ => .inl ⟨_, _, learns, hears, remains⟩, fun exit _ => .inr ⟨rfl, _,
        .inr ⟨_, learns⟩, hears.trans (SessionTurn.closedDown_chats hears.tidy)⟩⟩
    · rintro _ after ⟨batches, may, hears⟩
      exact .inr ⟨rfl, _, may, hears.trans (SessionTurn.closedDown_chats hears.tidy)⟩

end Ferry
