import Ferry.Proofs.Session.EventRules

/-!
# The course of a session

While a session is playing, its player is on one of five courses: settled on a backend,
called away, logging in to another backend, on the way out of the old one, or on the way into
the new one. Every task keeps to that, so that the parts of a session always fit together.
-/

namespace Ferry

/-- The course that a player is on. -/
inductive Session.Course (session : Session) : Prop
  | settled (stays : session.backend.isSome = true) (alone : session.pending = none)
      (uncalled : session.connecting = none) (free : session.player.transfer = none)
  | dialing (called : session.connecting.isSome = true) (alone : session.pending = none)
      (free : session.player.transfer = none)
  | loggingIn {pending : PendingBackend} (met : session.pending = some pending)
      (login : pending.arrival.started = false) (uncalled : session.connecting = none)
      (free : session.player.transfer = none)
  | departing {pending : PendingBackend} {transfer : Transfer}
      (met : session.pending = some pending) (started : pending.arrival.started = true)
      (uncalled : session.connecting = none)
      (moving : session.player.transfer = some transfer) (locked : transfer.phase = .departing)
      (aimed : pending.arrival.target = transfer.target)
  | arriving {backend : Backend} {transfer : Transfer}
      (on : session.backend = some backend) (alone : session.pending = none)
      (uncalled : session.connecting = none)
      (moving : session.player.transfer = some transfer) (left : transfer.phase = .arriving)
      (there : backend.server = transfer.target)

/-- A playing session that is on a course, unless it wants to end. -/
def Session.Underway (session : Session) : Prop :=
  session.stage = .playing ∧ (session.exit = none → session.Course)

namespace Session

variable {session other : Session}

/-- A course is a matter of which servers there are and of how far the transfer has got. -/
theorem Course.congr (course : session.Course)
    (backend : other.backend.map Backend.server = session.backend.map Backend.server)
    (pending : other.pending.map PendingBackend.arrival =
      session.pending.map PendingBackend.arrival)
    (connecting : other.connecting = session.connecting)
    (transfer : (other.player.transfer.map fun transfer => (transfer.phase, transfer.target)) =
      session.player.transfer.map fun transfer => (transfer.phase, transfer.target)) :
    other.Course := by
  cases course with
  | settled stays alone uncalled free =>
    have stays : other.backend.isSome = true := by
      rw [← Option.isSome_map (f := Backend.server), backend, Option.isSome_map, stays]
    exact .settled stays (by simpa [alone] using pending) (connecting.trans uncalled)
      (by simpa [free] using transfer)
  | dialing called alone free =>
    exact .dialing (by rw [connecting, called]) (by simpa [alone] using pending)
      (by simpa [free] using transfer)
  | loggingIn met login uncalled free =>
    obtain ⟨there, found, same⟩ : ∃ there, other.pending = some there ∧ there.arrival = _ := by
      simpa [met] using pending
    exact .loggingIn found (same ▸ login) (connecting.trans uncalled)
      (by simpa [free] using transfer)
  | departing met started uncalled moving locked aimed =>
    obtain ⟨there, found, same⟩ : ∃ there, other.pending = some there ∧ there.arrival = _ := by
      simpa [met] using pending
    obtain ⟨onward, goes, phase, target⟩ : ∃ onward, other.player.transfer = some onward ∧
        onward.phase = _ ∧ onward.target = _ := by
      simpa [moving] using transfer
    exact .departing found (same ▸ started) (connecting.trans uncalled) goes
      (phase.trans locked) (same ▸ aimed.trans target.symm)
  | arriving on alone uncalled moving left there =>
    obtain ⟨place, stays, same⟩ : ∃ place, other.backend = some place ∧ place.server = _ := by
      simpa [on] using backend
    obtain ⟨onward, goes, phase, target⟩ : ∃ onward, other.player.transfer = some onward ∧
        onward.phase = _ ∧ onward.target = _ := by
      simpa [moving] using transfer
    exact .arriving stays (by simpa [alone] using pending) (connecting.trans uncalled) goes
      (phase.trans left) (same.trans (there.trans target.symm))

/-- A client that is locked is on its way out of the old backend. -/
theorem Course.of_locked (course : session.Course) (locked : session.player.isLocked = true) :
    ∃ pending transfer, session.pending = some pending ∧ pending.arrival.started = true ∧
      session.player.transfer = some transfer ∧ transfer.phase = .departing := by
  cases course with
  | settled _ _ _ free => simp [Player.isLocked, free] at locked
  | dialing _ _ free => simp [Player.isLocked, free] at locked
  | loggingIn _ _ _ free => simp [Player.isLocked, free] at locked
  | departing met started _ moving away => exact ⟨_, _, met, started, moving, away⟩
  | arriving _ _ _ moving left =>
    simp [Player.isLocked, moving, Transfer.isLocked, left] at locked

/-- A client that is being transferred but not locked is on its way in. -/
theorem Course.arriving_of_free {transfer : Transfer} (course : session.Course)
    (moving : session.player.transfer = some transfer) (free : session.player.isLocked = false) :
    transfer.phase = .arriving := by
  cases course with
  | settled _ _ _ still => cases moving.symm.trans still
  | dialing _ _ still => cases moving.symm.trans still
  | loggingIn _ _ _ still => cases moving.symm.trans still
  | departing _ _ _ there locked =>
    cases moving.symm.trans there
    simp [Player.isLocked, moving, Transfer.isLocked, locked] at free
  | arriving _ _ _ there left =>
    cases moving.symm.trans there
    exact left

/-- While there is a backend that the player is moving to, a transfer can only have started. -/
theorem Course.of_pending {pending : PendingBackend} (course : session.Course)
    (met : session.pending = some pending) :
    (pending.arrival.started = false ∧ session.player.transfer = none) ∨
      ∃ transfer, pending.arrival.started = true ∧ session.player.transfer = some transfer ∧
        transfer.phase = .departing ∧ pending.arrival.target = transfer.target := by
  cases course with
  | settled _ alone => simp [met] at alone
  | dialing _ alone => simp [met] at alone
  | loggingIn there login _ free =>
    cases met.symm.trans there
    exact .inl ⟨login, free⟩
  | departing there started _ moving locked aimed =>
    cases met.symm.trans there
    exact .inr ⟨_, started, moving, locked, aimed⟩
  | arriving _ alone => simp [met] at alone

/-- Only the stage, the backends and the transfer matter for what is under way. -/
theorem Underway.congr (underway : session.Underway) (stage : other.stage = session.stage)
    (exit : other.exit = session.exit)
    (backend : other.backend.map Backend.server = session.backend.map Backend.server)
    (pending : other.pending.map PendingBackend.arrival =
      session.pending.map PendingBackend.arrival)
    (connecting : other.connecting = session.connecting)
    (transfer : (other.player.transfer.map fun transfer => (transfer.phase, transfer.target)) =
      session.player.transfer.map fun transfer => (transfer.phase, transfer.target)) :
    other.Underway :=
  ⟨stage.trans underway.1,
    fun goes => (underway.2 (exit.symm.trans goes)).congr backend pending connecting transfer⟩

/-- A player who goes to another server in place of a lost one is on its way there. -/
theorem fallenBack_underway {turn : SessionTurn} {lost : Server} {reason : Farewell}
    {message : String} (playing : turn.session.stage = .playing)
    (free : turn.session.player.transfer = none) :
    (turn.fallenBack lost reason message).session.Underway := by
  unfold SessionTurn.fallenBack
  dsimp only
  split
  · exact ⟨playing, fun _ => .dialing rfl rfl free⟩
  · exact ⟨playing, by simp⟩

/-- A session that has given a transfer up goes on, or is to end. -/
theorem abandoned_underway {turn : SessionTurn} {target : Server} {message : String}
    (playing : turn.session.stage = .playing) :
    (turn.abandoned target message).session.Underway :=
  fallenBack_underway playing rfl

end Session

namespace Work

variable {turn : SessionTurn}

/-- Work that, done or failed, leaves a session on a course unless it is to end. -/
abbrev StaysUnderway (work : Work Unit) (turn : SessionTurn) : Prop :=
  work.Leads turn (fun _ after => after.session.Underway) fun _ _ => True

/-! ## Writing -/

/-- What is done to the client leaves the session under way. -/
theorem staysUnderway_toClient {act : Peer → Except SessionError Unit × Peer × List Output}
    (underway : turn.session.Underway) : (toClient act).StaysUnderway turn :=
  leads_toClient_keeps Session.Underway fun _ => underway.congr rfl rfl rfl rfl rfl rfl

/-- What is done to the backend leaves the session under way. -/
theorem staysUnderway_toBackend {act : Peer → Except SessionError Unit × Peer × List Output}
    (underway : turn.session.Underway) : (toBackend act).StaysUnderway turn :=
  leads_toBackend_keeps Session.Underway underway fun _ on _ =>
    underway.congr rfl rfl (by simp [on]) rfl rfl rfl

/-- What is done to the new backend leaves the session under way. -/
theorem staysUnderway_toPending {act : Peer → Except SessionError Unit × Peer × List Output}
    (underway : turn.session.Underway) : (toPending act).StaysUnderway turn :=
  leads_toPending_keeps Session.Underway underway fun _ met _ =>
    underway.congr rfl rfl rfl (by simp [met]) rfl rfl

/-! ## Routing -/

/-- A transfer that fails leaves the session under way. -/
theorem staysUnderway_failTransfer {message : String} (underway : turn.session.Underway) :
    (failTransfer message).StaysUnderway turn := by
  rw [StaysUnderway, leads_failTransfer]
  cases destination turn.session with
  | none => exact underway
  | some target => exact Session.abandoned_underway underway.1

/-- What may become of a player whose backend is gone: it goes on to where it was going, or to
another server in place of that backend, or of the one that it was to arrive at. -/
theorem leads_loseBackend_of_course {message : Option String} {done : Unit → SessionTurn → Prop}
    {failed : SessionError → SessionTurn → Prop} (course : turn.session.Course)
    (gone : turn.session.backend = none → done () turn)
    (goesOn : done ()
      ⟨{ turn.session with backend := none }, turn.outputs ++ turn.session.backendClosing⟩)
    (falls : turn.session.player.transfer = none → ∀ lost reason message,
      done () (SessionTurn.fallenBack ⟨{ turn.session with backend := none },
        turn.outputs ++ turn.session.backendClosing⟩ lost reason message))
    (fails : ∀ target message, done () (SessionTurn.abandoned
      ⟨{ turn.session with backend := none }, turn.outputs ++ turn.session.backendClosing⟩
      target message)) :
    (loseBackend message).Leads turn done failed := by
  cases on : turn.session.backend with
  | none => exact (leads_loseBackend_of_none on).mpr (gone on)
  | some backend =>
    have present : turn.session.backend.isSome = true := by rw [on]; rfl
    cases course with
    | settled _ alone uncalled free =>
      exact (leads_loseBackend_of_settled on free alone uncalled).mpr (falls free _ _ _)
    | dialing called alone free =>
      exact (leads_loseBackend_of_moving present (by simp [free]) (.inr (.inr called))).mpr goesOn
    | loggingIn met login uncalled free =>
      exact (leads_loseBackend_of_moving present (by simp [free])
        (.inr (.inl (by rw [met]; rfl)))).mpr goesOn
    | departing met started uncalled moving locked aimed =>
      refine (leads_loseBackend_of_moving present ?_ (.inl (by rw [moving]; rfl))).mpr goesOn
      intro transfer same
      cases moving.symm.trans same
      simp [Transfer.isLocked, locked]
    | arriving _ alone uncalled moving left there =>
      refine (leads_loseBackend_of_arriving present moving ?_).mpr (fails _ _)
      simp [Transfer.isLocked, left]

/-- A backend that is lost leaves the session under way, or it is to end. -/
theorem staysUnderway_loseBackend {message : Option String} (playing : turn.session.Underway)
    (course : turn.session.Course) : (loseBackend message).StaysUnderway turn := by
  cases on : turn.session.backend with
  | none => exact (leads_loseBackend_of_none on).mpr playing
  | some backend =>
    have present : turn.session.backend.isSome = true := by rw [on]; rfl
    cases course with
    | settled _ alone uncalled free =>
      exact (leads_loseBackend_of_settled on free alone uncalled).mpr
        (Session.fallenBack_underway playing.1 free)
    | dialing called alone free =>
      refine (leads_loseBackend_of_moving present (by simp [free]) (.inr (.inr called))).mpr ?_
      exact ⟨playing.1, fun _ => .dialing called alone free⟩
    | loggingIn met login uncalled free =>
      refine (leads_loseBackend_of_moving present (by simp [free]) ?_).mpr ?_
      · exact .inr (.inl (by rw [met]; rfl))
      · exact ⟨playing.1, fun _ => .loggingIn met login uncalled free⟩
    | departing met started uncalled moving locked aimed =>
      refine (leads_loseBackend_of_moving present ?_ (.inl (by rw [moving]; rfl))).mpr ?_
      · intro transfer same
        cases moving.symm.trans same
        simp [Transfer.isLocked, locked]
      · exact ⟨playing.1, fun _ => .departing met started uncalled moving locked aimed⟩
    | arriving _ alone uncalled moving left there =>
      refine (leads_loseBackend_of_arriving present moving ?_).mpr ?_
      · simp [Transfer.isLocked, left]
      · exact Session.abandoned_underway playing.1

/-- A call for a server leaves the session under way. -/
theorem staysUnderway_connectTo {server : Server} {source : Option Server}
    (underway : turn.session.Underway) : (connectTo server source).StaysUnderway turn := by
  cases moving : turn.session.player.transfer with
  | some transfer => exact (leads_connectTo_of_moving (by rw [moving]; rfl)).mpr underway
  | none =>
    exact (leads_connectTo moving).mpr ⟨underway.1, fun _ => .dialing rfl rfl moving⟩

/-- The start of a transfer leaves the session under way. -/
theorem staysUnderway_startTransfer {teardown : List Packet}
    (underway : turn.session.Underway) : (startTransfer teardown).StaysUnderway turn := by
  cases moving : turn.session.player.transfer with
  | none => exact (leads_startTransfer_of_none moving).mpr underway
  | some transfer =>
    refine (leads_startTransfer moving).mpr (staysUnderway_toClient ?_)
    refine ⟨underway.1, fun goes => (underway.2 goes).congr ?_ rfl rfl rfl⟩
    simp [Session.setOff, Function.comp_def]

/-- What an acknowledgment leads to. A transfer is not ended before the client has arrived,
and the new backend is there as long as the client has not left the old one. -/
theorem staysUnderway_acknowledge (playing : turn.session.Underway)
    (course : turn.session.Course) : acknowledge.StaysUnderway turn := by
  have idle (free : turn.session.player.transfer = none) : acknowledge.StaysUnderway turn := by
    simpa [StaysUnderway, acknowledge, free] using playing
  cases course with
  | settled _ _ _ free => exact idle free
  | dialing _ _ free => exact idle free
  | loggingIn _ _ _ free => exact idle free
  | departing met started uncalled moving locked aimed =>
    simp only [StaysUnderway, acknowledge, leads_bind, leads_session, moving, Option.map_some,
      Transfer.acknowledge, locked]
    refine (leads_finishDeparture met).mpr ?_
    refine (staysUnderway_toClient ?_).mono ?_ fun _ _ fault => fault
    · exact ⟨playing.1, fun _ => .arriving rfl rfl uncalled rfl rfl aimed⟩
    · intro _ after kept
      exact staysUnderway_toClient kept
  | arriving on alone uncalled moving left there =>
    simp only [StaysUnderway, acknowledge, leads_bind, leads_session, moving, Option.map_some,
      Transfer.acknowledge, left]
    refine leads_finishArrival.mpr ?_
    refine (staysUnderway_toClient ?_).mono ?_ fun _ _ fault => fault
    · exact ⟨playing.1, fun _ => .settled (by simp [on]) alone uncalled rfl⟩
    · intro _ after kept
      split
      · exact (staysUnderway_toBackend kept).mono (fun _ last same => same) fun _ _ fault => fault
      · exact Session.abandoned_underway kept.1

/-- An answer leaves the session under way. -/
theorem staysUnderway_reply {source : BatchSource} {packet : Packet}
    (underway : turn.session.Underway) : (reply source packet).StaysUnderway turn := by
  unfold reply
  cases source with
  | client => exact staysUnderway_toClient underway
  | backend => exact staysUnderway_toBackend underway
  | pending => exact staysUnderway_toPending underway

/-- Whatever a handler asks for, the session stays on a course. -/
theorem staysUnderway_act {source : BatchSource} {action : Action}
    (playing : turn.session.Underway) (course : turn.session.Course) :
    (act source action).StaysUnderway turn := by
  cases action with
  | reply packet => exact staysUnderway_reply playing
  | dimensionChanged => exact staysUnderway_acknowledge playing course
  | transferStarted teardown => exact staysUnderway_startTransfer playing
  | transferFailed message => exact staysUnderway_failTransfer playing
  | kicked message => exact staysUnderway_loseBackend playing course

/-- Actions leave the session under way. -/
theorem staysUnderway_actAll {source : BatchSource} {actions : List Action}
    (going : turn.session.exit = none) (underway : turn.session.Underway) :
    (actAll source actions).StaysUnderway turn :=
  leads_actAll (fun turn => turn.session.Underway)
    (fun _ _ _ goes kept => staysUnderway_act kept (kept.2 goes)) going underway

/-- A batch is passed on, and then what it asks for is done. -/
theorem staysUnderway_passOn {write : Work Unit} {source : BatchSource} {actions : List Action}
    (kept : write.Leads turn
      (fun _ after => after.session.exit = none ∧ after.session.Underway) fun _ _ => True) :
    write.Leads turn (fun _ after => (actAll source actions).StaysUnderway after)
      fun _ _ => True :=
  kept.mono (fun _ _ here => staysUnderway_actAll here.1 here.2) fun _ _ fault => fault

/-! ## Events -/

variable {frame : Bytes}

/-- A frame of the client leaves the session under way. -/
theorem staysUnderway_onClient (going : turn.session.exit = none)
    (underway : turn.session.Underway) : (onClient frame).StaysUnderway turn := by
  cases decoded : (turn.session.client.connection.decode frame).1 with
  | error fault => exact (leads_onClient_of_error decoded).mpr trivial
  | ok batch =>
    have same : (turn.session.fromClient batch).player.transfer = turn.session.player.transfer :=
      process_client.1
    have took : (turn.tookFromClient frame batch).session.Underway :=
      underway.congr rfl rfl rfl rfl rfl (congrArg _ same)
    refine (leads_onClient decoded).mpr (staysUnderway_passOn ?_)
    split
    · exact leads_toBackend_keeps (fun session => session.exit = none ∧ session.Underway)
        ⟨going, took⟩ fun backend on peer =>
          ⟨going, took.congr rfl rfl (by simp [on]) rfl rfl rfl⟩
    · exact ⟨going, took⟩

/-- A frame of the backend leaves the session under way. -/
theorem staysUnderway_onBackend (going : turn.session.exit = none)
    (underway : turn.session.Underway) : (onBackend frame).StaysUnderway turn := by
  cases on : turn.session.backend with
  | none => exact (leads_onBackend_of_none on).mpr underway
  | some backend =>
    cases decoded : (backend.peer.connection.decode frame).1 with
    | error fault => exact (leads_onBackend_of_error on decoded).mpr trivial
    | ok batch =>
      cases locked : turn.session.player.isLocked with
      | true =>
        exact (leads_onBackend_of_locked on locked decoded).mpr
          (underway.congr rfl rfl (by simp [on]) rfl rfl rfl)
      | false =>
        have same : (turn.session.fromBackend backend batch).player.transfer =
          turn.session.player.transfer := process_backend.1
        have took : (turn.tookFromBackend backend frame batch).session.Underway :=
          underway.congr rfl rfl (by simp [SessionTurn.tookFromBackend, on]) rfl rfl
            (congrArg _ same)
        refine (leads_onBackend on locked decoded).mpr (staysUnderway_passOn ?_)
        split
        · exact leads_toClient_keeps (fun session => session.exit = none ∧ session.Underway)
            fun client => ⟨going, took.congr rfl rfl rfl rfl rfl rfl⟩
        · exact ⟨going, took⟩

/-- What a new backend sends keeps the player logging in, or takes it on its way. -/
theorem course_of_pending {pending : PendingBackend} {batch : Batch}
    (course : turn.session.Course) (met : turn.session.pending = some pending) :
    (turn.tookFromPending pending frame batch).session.Course := by
  unfold SessionTurn.tookFromPending
  dsimp only
  have aim := @keptFromPending_aim batch turn.session pending
  have progress := fromPending_progress turn.session pending batch
  generalize (turn.session.keptFromPending pending batch).1 = player at aim ⊢
  generalize (turn.session.fromPending pending batch).player.transfer = moved at aim progress
  generalize (turn.session.fromPending pending batch).state = arrival at progress ⊢
  cases course with
  | settled _ alone => simp [met] at alone
  | dialing _ alone => simp [met] at alone
  | arriving _ alone => simp [met] at alone
  | loggingIn there login uncalled free =>
    cases met.symm.trans there
    cases progress with
    | loggingIn => exact .loggingIn rfl login uncalled (by simpa [free] using aim)
    | spawned _ isFresh =>
      obtain ⟨transfer, moving, phase, target⟩ : ∃ transfer, player.transfer = some transfer ∧
          transfer.phase = _ ∧ transfer.target = _ := by simpa using aim
      exact .departing rfl rfl uncalled moving (phase.trans isFresh.departing)
        (isFresh.target.symm.trans target.symm)
    | goesOn game => simp [login] at game
  | @departing _ transfer there started uncalled moving locked aimed =>
    cases met.symm.trans there
    cases progress with
    | loggingIn login => simp [started] at login
    | spawned login => simp [started] at login
    | goesOn _ goal =>
      have same : (moved.map fun transfer => (transfer.phase, transfer.target)) =
          some (transfer.phase, transfer.target) := by
        rcases goal with rfl | ⟨dimension, rfl⟩ <;> simp [moving, Transfer.toDimension]
      obtain ⟨onward, goes, phase, target⟩ : ∃ onward, player.transfer = some onward ∧
          onward.phase = _ ∧ onward.target = _ := by simpa [same] using aim
      exact .departing rfl started uncalled goes (phase.trans locked)
        (aimed.trans target.symm)

/-- A frame of a new backend leaves the session under way. -/
theorem staysUnderway_onPending (going : turn.session.exit = none)
    (underway : turn.session.Underway) : (onPending frame).StaysUnderway turn := by
  cases met : turn.session.pending with
  | none => exact (leads_onPending_of_none met).mpr underway
  | some pending =>
    cases decoded : (pending.peer.connection.decode frame).1 with
    | error fault =>
      exact (leads_onPending_of_error met decoded).mpr
        (staysUnderway_failTransfer (underway.congr rfl rfl rfl (by simp [met]) rfl rfl))
    | ok batch =>
      exact (leads_onPending met decoded).mpr
        (staysUnderway_actAll going ⟨underway.1, fun goes =>
          course_of_pending (underway.2 goes) met⟩)

/-- A server that answers the call, or does not, leaves the session under way. -/
theorem staysUnderway_onConnected {attempt : Nat} {result : Except String (Nat × Connection)}
    (going : turn.session.exit = none) (underway : turn.session.Underway) :
    (onConnected attempt result).StaysUnderway turn := by
  refine leads_onConnected underway (fun _ _ => Session.abandoned_underway underway.1)
    fun called _ _ _ login => ?_
  have free : turn.session.player.transfer = none := by
    cases underway.2 going <;> simp_all
  exact ⟨underway.1, fun _ => .loggingIn rfl login rfl free⟩

/-- A call to another server leaves the session under way. -/
theorem staysUnderway_onTransfer {server : Server} (underway : turn.session.Underway) :
    (onTransfer server).StaysUnderway turn := by
  simp only [StaysUnderway, onTransfer, leads_bind, leads_session]
  split
  · exact staysUnderway_connectTo underway
  · exact underway

/-- Whatever happens to a playing session, it stays on a course unless it is to end. -/
theorem staysUnderway_onEvent {event : Event} (going : turn.session.exit = none)
    (underway : turn.session.Underway) : (onEvent event).StaysUnderway turn := by
  cases event with
  | client frame =>
    cases frame with
    | some frame => exact staysUnderway_onClient going underway
    | none => exact ⟨underway.1, by simp⟩
  | backend frame =>
    cases frame with
    | some frame => exact staysUnderway_onBackend going underway
    | none => exact staysUnderway_loseBackend underway (underway.2 going)
  | pending frame =>
    cases frame with
    | some frame => exact staysUnderway_onPending going underway
    | none => exact staysUnderway_failTransfer underway
  | connected attempt result => exact staysUnderway_onConnected going underway
  | tick =>
    refine leads_bind.mpr ((staysUnderway_toClient underway).mono ?_ fun _ _ fault => fault)
    intro _ _ kept
    exact staysUnderway_toBackend kept
  | transfer server => exact staysUnderway_onTransfer underway
  | disconnect reason => exact ⟨underway.1, by simp⟩
  | severed link => exact underway

end Work

/-! ## Runs -/

/-- A session that has not begun to play has nothing but its client. -/
structure Session.IsBare (session : Session) : Prop where
  backend : session.backend = none
  pending : session.pending = none
  connecting : session.connecting = none
  transfer : session.player.transfer = none
  exit : session.exit = none

/-- A session that is over, or awaits its first backend, or goes on along a course. -/
inductive Session.Coherent (session : Session) : Prop
  | closed (ended : session.stage = .over) (left : session.backend = none)
      (alone : session.pending = none) (still : session.player.transfer = none)
  | joining {server : Server} (joining : session.stage = .joining server) (bare : session.IsBare)
  | playing (playing : session.stage = .playing) (going : session.exit = none)
      (course : session.Course)

namespace Session

variable {session : Session}

/-- A session that is over moves nobody. -/
theorem Coherent.of_over (coherent : session.Coherent) (ended : session.stage = .over) :
    session.player.transfer = none := by
  cases coherent with
  | closed _ _ _ still => exact still
  | joining joining => cases ended.symm.trans joining
  | playing playing => cases ended.symm.trans playing

/-- A coherent session that is playing goes on along a course. -/
theorem Coherent.of_playing (coherent : session.Coherent) (playing : session.stage = .playing) :
    session.exit = none ∧ session.Course := by
  cases coherent with
  | closed ended => cases playing.symm.trans ended
  | joining joining => cases playing.symm.trans joining
  | playing _ going course => exact ⟨going, course⟩

/-- A session that moves its player to another backend plays on. -/
theorem Coherent.of_pending {pending : PendingBackend} (coherent : session.Coherent)
    (met : session.pending = some pending) :
    session.stage = .playing ∧ session.exit = none ∧ session.Course := by
  cases coherent with
  | closed _ _ alone _ => cases met.symm.trans alone
  | joining _ bare => cases met.symm.trans bare.pending
  | playing playing going course => exact ⟨playing, going, course⟩

/-- A session whose client is on its way out plays on. -/
theorem Coherent.of_locked (coherent : session.Coherent)
    (locked : session.player.isLocked = true) :
    session.stage = .playing ∧ ∃ pending transfer, session.pending = some pending ∧
      session.player.transfer = some transfer ∧ transfer.phase = .departing := by
  cases coherent with
  | closed _ _ _ still => simp [Player.isLocked, still] at locked
  | joining _ bare => simp [Player.isLocked, bare.transfer] at locked
  | playing playing _ course =>
    obtain ⟨pending, transfer, met, -, moving, away⟩ := course.of_locked locked
    exact ⟨playing, pending, transfer, met, moving, away⟩

/-- A session starts coherent. -/
theorem start_coherent (login : LoginData) (services : SessionServices) (client : Connection)
    (initial : Server) : (start login services client initial).1.Coherent :=
  .joining rfl ⟨rfl, rfl, rfl, rfl, rfl⟩

/-- A link that is severed leaves a session coherent. -/
theorem sever_coherent (link : LinkId) (coherent : session.Coherent) :
    (session.sever link).Coherent := by
  cases coherent with
  | closed ended left alone still =>
    exact .closed ended (by simp [sever, left]) (by simp [sever, alone]) still
  | joining joining bare =>
    exact .joining joining ⟨by simp [sever, bare.backend], by simp [sever, bare.pending],
      bare.connecting, bare.transfer, bare.exit⟩
  | playing playing going course =>
    refine .playing playing going (course.congr ?_ ?_ rfl rfl)
    · simp [sever, Function.comp_def]
    · simp [sever, Function.comp_def]

/-- A session whose first backend is there is settled on it. -/
theorem join_coherent {server : Server} {result : Except String (Nat × Connection)}
    (bare : session.IsBare) : (session.join server result).session.Coherent := by
  cases result with
  | ok there =>
    exact .playing rfl bare.exit (.settled rfl bare.pending bare.connecting bare.transfer)
  | error message =>
    simp only [join, after_shutdown]
    exact .closed rfl rfl rfl rfl

/-- What an event comes to in a coherent session. -/
inductive Handling (session : Session) : Event → Prop
  | severed (link : LinkId) : Handling session (.severed link)
  /-- A session that is over, or waits for something else, takes nothing in. -/
  | idle {event : Event} (unplayed : session.stage ≠ .playing)
      (still : session.player.transfer = none) (same : session.handle event = (session, [])) :
      Handling session event
  | joins {server : Server} {result : Except String (Nat × Connection)}
      (joining : session.stage = .joining server) (bare : session.IsBare)
      (same : session.handle (.connected 0 result) =
        ((session.join server result).session, (session.join server result).outputs)) :
      Handling session (.connected 0 result)
  | plays {event : Event} (here : ∀ link, event ≠ .severed link)
      (playing : session.stage = .playing) (going : session.exit = none)
      (course : session.Course) : Handling session event

/-- In a coherent session an event comes to one of these things. -/
theorem Coherent.handling (event : Event) (coherent : session.Coherent) :
    session.Handling event := by
  by_cases gone : ∃ link, event = .severed link
  · obtain ⟨link, rfl⟩ := gone
    exact .severed link
  · have here : ∀ link, event ≠ .severed link := fun link same => gone ⟨link, same⟩
    cases coherent with
    | closed ended _ _ still =>
      exact .idle (by simp [ended]) still (handle_of_over ended here)
    | joining joining bare =>
      rcases handle_of_joining joining here with same | ⟨result, rfl, same⟩
      · exact .idle (by simp [joining]) bare.transfer same
      · exact .joins joining bare same
    | playing playing going course => exact .plays here playing going course

/-- An event leaves a session coherent. -/
theorem handle_coherent (event : Event) (coherent : session.Coherent) :
    (session.handle event).1.Coherent := by
  cases coherent.handling event with
  | severed link => simpa [handle] using sever_coherent link coherent
  | idle _ _ same =>
    rw [same]
    exact coherent
  | joins _ bare same =>
    rw [same]
    exact join_coherent bare
  | plays here playing going course =>
    refine handle_of_leads (fun turn => turn.session.Coherent) playing here ?_
    refine (Work.staysUnderway_onEvent going ⟨playing, fun _ => course⟩).mono ?_ ?_
    · intro _ after kept
      exact ⟨fun goes => .playing kept.1 goes (kept.2 goes),
        fun _ _ => .closed rfl rfl rfl rfl⟩
    · intro _ _ _
      exact .closed rfl rfl rfl rfl

/-- A move leaves a session coherent. -/
theorem move_coherent (session : Session) (move : Move) (coherent : session.Coherent) :
    (session.move move).1.Coherent := by
  cases move with
  | event event => exact handle_coherent event coherent
  | push packet =>
    cases coherent with
    | closed ended left alone still => exact .closed ended left alone still
    | joining joining bare =>
      exact .joining joining ⟨bare.backend, bare.pending, bare.connecting, bare.transfer, bare.exit⟩
    | playing playing going course =>
      exact .playing playing going (course.congr rfl rfl rfl rfl)

/-- Whether a session has found its first backend, or has failed to. -/
def HasJoined (session : Session) : Prop := ∀ server, session.stage ≠ .joining server

/-- A session joins once. -/
theorem move_hasJoined (session : Session) (move : Move) (coherent : session.Coherent)
    (joined : session.HasJoined) : (session.move move).1.HasJoined := by
  cases move with
  | push packet => exact joined
  | event event =>
    simp only [Session.move]
    cases coherent.handling event with
    | severed link =>
      simp only [handle]
      exact joined
    | idle _ _ same =>
      rw [same]
      exact joined
    | joins joining => exact absurd joining (joined _)
    | plays here playing going course =>
      refine handle_of_leads (fun turn => turn.session.HasJoined) playing here
        ((Work.staysUnderway_onEvent going ⟨playing, fun _ => course⟩).mono ?_ ?_)
      · intro _ after kept
        refine ⟨fun _ server => by simp [kept.1], ?_⟩
        rintro exit - server ⟨⟩
      · rintro fault after - server ⟨⟩

/-- Whatever has happened to a session, it is coherent. -/
theorem play_coherent (login : LoginData) (services : SessionServices) (client : Connection)
    (initial : Server) (moves : List Move) :
    ((start login services client initial).1.play moves).1.Coherent :=
  play_keeps Coherent move_coherent moves (start_coherent login services client initial)

end Session

/-- How the parts of a playing session fit together. -/
structure Session.IsAccountedFor (session : Session) : Prop where
  /-- The client is not stranded. -/
  present : session.backend.isSome = true ∨ session.pending.isSome = true ∨
    session.connecting.isSome = true
  exclusive : ¬(session.pending.isSome = true ∧ session.connecting.isSome = true)
  departing : ∀ transfer, session.player.transfer = some transfer →
    transfer.phase = .departing → session.connecting = none ∧
      ∃ pending, session.pending = some pending ∧ pending.arrival.started = true ∧
        pending.arrival.target = transfer.target
  arriving : ∀ transfer, session.player.transfer = some transfer →
    transfer.phase = .arriving → session.pending = none ∧ session.connecting = none ∧
      ∃ backend, session.backend = some backend ∧ backend.server = transfer.target
  unfinished : ∀ transfer, session.player.transfer = some transfer → transfer.phase ≠ .over

/-- On every course the parts of a session fit together. -/
theorem Session.Course.isAccountedFor {session : Session} (course : session.Course) :
    session.IsAccountedFor := by
  cases course with
  | settled stays alone uncalled free =>
    exact ⟨.inl stays, by simp [alone], by simp [free], by simp [free], by simp [free]⟩
  | dialing called alone free =>
    exact ⟨.inr (.inr called), by simp [alone], by simp [free], by simp [free], by simp [free]⟩
  | loggingIn met login uncalled free =>
    exact ⟨.inr (.inl (by simp [met])), by simp [uncalled], by simp [free], by simp [free],
      by simp [free]⟩
  | departing met started uncalled moving locked aimed =>
    refine ⟨.inr (.inl (by simp [met])), by simp [uncalled], ?_, ?_, ?_⟩
    · rintro transfer same -
      cases moving.symm.trans same
      exact ⟨uncalled, _, met, started, aimed⟩
    · rintro transfer same left
      cases moving.symm.trans same
      cases locked.symm.trans left
    · rintro transfer same done
      cases moving.symm.trans same
      cases locked.symm.trans done
  | arriving on alone uncalled moving left there =>
    refine ⟨.inl (by simp [on]), by simp [alone], ?_, ?_, ?_⟩
    · rintro transfer same locked
      cases moving.symm.trans same
      cases left.symm.trans locked
    · rintro transfer same -
      cases moving.symm.trans same
      exact ⟨alone, uncalled, _, on, there⟩
    · rintro transfer same done
      cases moving.symm.trans same
      cases left.symm.trans done

/-- After every run a session is over, or still awaits its first backend, or plays on with its
parts in place. -/
theorem Session.play_isAccountedFor (login : LoginData) (services : SessionServices)
    (client : Connection) (initial : Server) (moves : List Move) :
    let session := ((Session.start login services client initial).1.play moves).1
    session.stage = .over ∨ session.awaited = some 0 ∧ (∃ server, session.stage = .joining server) ∨
      session.stage = .playing ∧ session.exit = none ∧ session.IsAccountedFor := by
  intro session
  cases play_coherent login services client initial moves with
  | closed ended => exact .inl ended
  | joining joining =>
    have waits : session.awaited = some 0 := by
      unfold awaited
      rw [joining]
    exact .inr (.inl ⟨waits, _, joining⟩)
  | playing playing going course => exact .inr (.inr ⟨playing, going, course.isAccountedFor⟩)

end Ferry
