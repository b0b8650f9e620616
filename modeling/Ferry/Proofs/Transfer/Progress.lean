import Ferry.Proofs.Session.NumberAuthority
import Ferry.Proofs.Transfer.MilestonesDue

/-!
# What becomes of a transfer in one move

With a move a transfer ends, or goes on as it was, or begins, or the client leaves the old backend.
It begins only where the client is sent away, and it goes on only while nothing is acknowledged. As
long as it is in progress, the numbers of the one backend hold that the player is moved to.
-/

namespace Ferry

namespace Session

variable {session : Session} {pending : PendingBackend} {batch : Batch} {frame : Bytes}
  {transfer : Transfer}

/-! ## New backends -/

/-- The transfer that a new backend has started leads from where the player was to that backend. -/
theorem Spawns.aim {next : Transfer} (spawns : session.Spawns frame pending batch)
    (sound : session.Sound)
    (onward : (session.keptFromPending pending batch).1.transfer = some next) :
    next.source = pending.arrival.source ∧ next.target = pending.arrival.target := by
  obtain ⟨transfer, waiting, moving, rfl⟩ := Work.keptFromPending_transfer onward
  have progress := Work.fromPending_progress session pending batch
  rw [spawns.unmoved sound, moving] at progress
  generalize (session.fromPending pending batch).state = arrival at progress
  cases progress with
  | spawned _ isFresh => exact ⟨isFresh.source, isFresh.target⟩
  | goesOn game => cases spawns.login.symm.trans game

/-- What a backend sends that has spawned the player before leaves the transfer as it is, but for
where the client is to arrive and what waits for it. -/
theorem keptFromPending_goesOn {next : Transfer} (game : pending.arrival.started = true)
    (onward : (session.keptFromPending pending batch).1.transfer = some next) :
    ∃ transfer, session.player.transfer = some transfer ∧ next.phase = transfer.phase ∧
      next.source = transfer.source ∧ next.target = transfer.target := by
  obtain ⟨kept, waiting, moving, rfl⟩ := Work.keptFromPending_transfer onward
  have progress := Work.fromPending_progress session pending batch
  rw [moving] at progress
  generalize (session.fromPending pending batch).state = arrival at progress
  generalize remains : some kept = still at progress
  cases progress with
  | loggingIn login => cases login.symm.trans game
  | spawned login => cases login.symm.trans game
  | goesOn _ aim =>
    rcases aim with rfl | ⟨dimension, rfl⟩
    · exact ⟨kept, remains.symm, rfl, rfl, rfl⟩
    · obtain ⟨transfer, before, same⟩ := Option.map_eq_some_iff.mp remains.symm
      subst same
      exact ⟨transfer, before, rfl, rfl, rfl⟩

/-! ## Moves -/

/-- What has become of the transfer in progress with a move. -/
inductive Onward (session : Session) : Move → Session → Prop
  | ended {move : Move} {after : Session} (ended : after.player.transfer = none) :
      Onward session move after
  /-- The transfer goes on, and nothing is acknowledged. -/
  | stays {move : Move} {after : Session} {transfer next : Transfer}
      (moving : session.player.transfer = some transfer)
      (onward : after.player.transfer = some next) (phase : next.phase = transfer.phase)
      (source : next.source = transfer.source) (target : next.target = transfer.target)
      (unanswered : session.answers move = []) : Onward session move after
  /-- A new backend has spawned the player, and the client was sent away. -/
  | begins {frame : Bytes} {pending : PendingBackend} {batch : Batch} {after : Session}
      {next : Transfer} (spawns : session.Spawns frame pending batch)
      (accepts : pending.refusesFirst batch = false) (opened : session.client.isOpen = true)
      (onward : after.player.transfer = some next) (away : next.phase = .departing)
      (source : next.source = pending.arrival.source)
      (target : next.target = pending.arrival.target) :
      Onward session (.event (.pending (some frame))) after
  /-- The client has left the old backend. -/
  | leaves {frame : Bytes} {after : Session} {transfer next : Transfer} {answer : BatchPacket}
      (moving : session.player.transfer = some transfer) (away : transfer.phase = .departing)
      (opened : session.client.isOpen = true)
      (onward : after.player.transfer = some next) (arriving : next.phase = .arriving)
      (source : next.source = transfer.source) (target : next.target = transfer.target)
      (answered : session.answersIn frame = [answer]) :
      Onward session (.event (.client (some frame))) after

/-- A transfer in progress has not come to its end. -/
theorem Coherent.unfinished (coherent : session.Coherent)
    (moving : session.player.transfer = some transfer) :
    transfer.phase = .departing ∨ transfer.phase = .arriving := by
  cases coherent with
  | closed _ _ _ still => cases moving.symm.trans still
  | joining _ bare => cases moving.symm.trans bare.transfer
  | playing _ _ course =>
    cases locked : session.player.isLocked with
    | false => exact .inr (course.arriving_of_free moving locked)
    | true =>
      obtain ⟨-, _, -, -, there, away⟩ := course.of_locked locked
      cases moving.symm.trans there
      exact .inl away

/-- Nothing is acknowledged by a move that leaves a transfer in the phase it was in. -/
theorem answers_of_phase {move : Move} {next : Transfer} (sound : session.Sound)
    (moving : session.player.transfer = some transfer)
    (onward : (session.move move).1.player.transfer = some next)
    (phase : next.phase = transfer.phase) : session.answers move = [] := by
  rcases sound.coherent.unfinished moving with away | arriving
  · have locked := Player.locked_of_departing onward (phase.trans away)
    exact (move_leavesLocked sound locked).unanswered
  · refine answers_of_arriving sound.coherent ?_ ?_
    · simp [isArriving, moving, arriving]
    · simp [isArriving, onward, phase, arriving]

/-- A client that has only left with what it asked for has acknowledged once. -/
theorem answered_once {next : Transfer} (sound : session.Sound)
    (moving : session.player.transfer = some transfer) (away : transfer.phase = .departing)
    (said : session.askedByClient frame ≠ [])
    (onward : (session.move (.event (.client (some frame)))).1.player.transfer = some next) :
    ∃ answer, session.answersIn frame = [answer] := by
  have answers : session.answersIn frame ≠ [] := by
    rw [askedByClient_of_moving (by rw [moving]; rfl)] at said
    simpa using said
  obtain ⟨answer, more, answered⟩ := List.exists_cons_of_ne_nil answers
  cases more with
  | nil => exact ⟨answer, answered⟩
  | cons second rest =>
    have ended := move_ends sound.coherent moving (.inr ⟨away, by rw [answered]; simp⟩)
    cases ended.symm.trans onward

/-- What becomes of the transfer in progress with any move. -/
theorem move_onward (move : Move) (sound : session.Sound) :
    session.Onward move (session.move move).1 := by
  cases onward : (session.move move).1.player.transfer with
  | none => exact .ended onward
  | some next =>
    have stays {transfer : Transfer} (moving : session.player.transfer = some transfer)
        (phase : next.phase = transfer.phase) (source : next.source = transfer.source)
        (target : next.target = transfer.target) : session.Onward move (session.move move).1 :=
      .stays moving onward phase source target (answers_of_phase sound moving onward phase)
    have unchanged (same : session.player.transfer = some next) :
        session.Onward move (session.move move).1 := stays same rfl rfl rfl
    cases move with
    | push packet => exact unchanged onward
    | event event =>
      have coherent := (move_sound session (.event event) sound).coherent
      rcases session.handle_learns event sound with
        ⟨player, batches, learns, -, remains⟩ | ⟨ended, -⟩
      · have known : player.transfer = some next := by
          rcases remains.transfer with gone | same
          · cases gone.symm.trans onward
          · exact same.symm.trans onward
        cases learns with
        | nothing => exact unchanged known
        | relayed => exact unchanged (process_backend.1.symm.trans known)
        | waited _ game =>
          obtain ⟨transfer, moving, phase, source, target⟩ := keptFromPending_goesOn game known
          exact stays moving phase source target
        | refused => cases known
        | sentAway spawns accepts opened moving away =>
          cases moving.symm.trans known
          obtain ⟨source, target⟩ := spawns.aim sound moving
          exact .begins spawns accepts opened onward away source target
        | @left frame _ transfer _ moving away said opened =>
          obtain rfl := Option.some.inj known
          obtain ⟨answer, answered⟩ := answered_once sound moving away said onward
          exact .leaves moving away opened onward rfl rfl rfl answered
      · cases (coherent.of_over ended).symm.trans onward

/-- While a transfer is in progress, a frame of the client brings the acknowledgments in it. -/
theorem answers_of_moving (coherent : session.Coherent)
    (moving : session.player.transfer = some transfer) :
    session.answers (.event (.client (some frame))) = session.answersIn frame := by
  cases coherent with
  | closed _ _ _ still => cases moving.symm.trans still
  | joining _ bare => cases moving.symm.trans bare.transfer
  | playing playing => simp [answers, playing]

/-! ## Whose numbers are in force meanwhile -/

/-- While a transfer is in progress, the numbers of its target hold. -/
theorem Coherent.authority (coherent : session.Coherent)
    (moving : session.player.transfer = some transfer) :
    ∃ backend, session.authority = some backend ∧ backend.server = transfer.target := by
  cases coherent with
  | closed _ _ _ still => cases moving.symm.trans still
  | joining _ bare => cases moving.symm.trans bare.transfer
  | playing _ _ course =>
    cases course with
    | settled _ _ _ still => cases moving.symm.trans still
    | dialing _ _ still => cases moving.symm.trans still
    | loggingIn _ _ _ still => cases moving.symm.trans still
    | @departing pending _ met _ _ there locked aimed =>
      cases moving.symm.trans there
      exact ⟨pending.endpoint, authority_of_pending met moving locked, aimed⟩
    | @arriving backend _ on _ _ there left aimed =>
      cases moving.symm.trans there
      have free : session.player.isLocked = false := by
        simp [Player.isLocked, moving, Transfer.isLocked, left]
      exact ⟨backend.endpoint, authority_of_backend on free, aimed⟩

/-- While a transfer is in progress, nobody else is adopted. -/
theorem endpoints_of_moving {backend : Endpoint} (move : Move) (coherent : session.Coherent)
    (moving : session.player.transfer = some transfer) (here : session.authority = some backend) :
    ∀ adoption ∈ adoptions (session.log move), adoption.backend = backend := by
  cases session.logged move with
  | nothing empty =>
    rw [empty]
    rintro _ ⟨⟩
  | fromClient on free decoded =>
    rw [adoptions_of_client]
    rintro _ ⟨⟩
  | fromBackend on free decoded =>
    cases here.symm.trans (authority_of_backend on free)
    exact (backend_isLog on free decoded).adopted
  | fromPending met decoded =>
    obtain ⟨-, -, course⟩ := coherent.of_pending met
    rcases course.of_pending met with ⟨-, still⟩ | ⟨transfer, -, there, away, -⟩
    · cases moving.symm.trans still
    · cases here.symm.trans (authority_of_pending met there away)
      exact (pending_isLog met decoded).adopted

/-- A session that moves its player has joined. -/
theorem Coherent.joined_of_moving (coherent : session.Coherent)
    (moving : session.player.transfer = some transfer) : session.HasJoined := by
  intro server joining
  cases coherent with
  | closed ended => cases ended.symm.trans joining
  | joining _ bare => cases moving.symm.trans bare.transfer
  | playing playing => cases playing.symm.trans joining

/-- As long as a transfer goes on, the numbers of the same backend hold. -/
theorem authority_of_onward {move : Move} {next : Transfer} (sound : session.Sound)
    (moving : session.player.transfer = some transfer)
    (onward : (session.move move).1.player.transfer = some next) :
    (session.move move).1.authority = session.authority := by
  obtain ⟨backend, here, -⟩ := sound.coherent.authority moving
  obtain ⟨there, after, -⟩ := (move_sound session move sound).coherent.authority onward
  have joined := sound.coherent.joined_of_moving moving
  rcases (move_heeds move sound.coherent joined).authority with gone | same
  · cases after.symm.trans gone
  · rw [same, here, latest_of_endpoints (endpoints_of_moving move sound.coherent moving here)
      (.inr rfl)]

/-- With a frame that spawns the player its backend is adopted. -/
theorem Spawns.adopts (spawns : session.Spawns frame pending batch) :
    adoptions (session.log (.event (.pending (some frame)))) ≠ [] ∧
      ∀ adoption ∈ adoptions (session.log (.event (.pending (some frame)))),
        adoption.backend = pending.endpoint := by
  obtain ⟨-, empty⟩ := @log_of_login session frame batch pending none spawns.met spawns.login
    spawns.decoded
  refine ⟨fun nobody => ?_, (pending_isLog spawns.met spawns.decoded).adopted⟩
  have began := spawns.spawned
  have missing : (StartGame.first pending.peer.connection.version batch.packets).isNone = true :=
    empty.symm.trans (List.isEmpty_iff.mpr nobody)
  rw [Option.isNone_iff_eq_none.mp missing] at began
  cases began

/-- With the transfer that a new backend has started, its numbers hold. -/
theorem Spawns.authority {next : Transfer} (spawns : session.Spawns frame pending batch)
    (sound : session.Sound)
    (onward : (session.move (.event (.pending (some frame)))).1.player.transfer = some next) :
    (session.move (.event (.pending (some frame)))).1.authority = some pending.endpoint := by
  obtain ⟨there, after, -⟩ :=
    (move_sound session (.event (.pending (some frame))) sound).coherent.authority onward
  obtain ⟨adopted, endpoints⟩ := spawns.adopts
  have joined : session.HasJoined := by
    intro server joining
    cases joining.symm.trans (sound.coherent.of_pending spawns.met).1
  rcases (move_heeds (.event (.pending (.some frame))) sound.coherent joined).authority with
    gone | same
  · cases after.symm.trans gone
  · rw [same, latest_of_endpoints endpoints (.inl adopted)]

end Session

end Ferry
