import Ferry.Proofs.Transfer.Departure

/-!
# What leaves the client locked

A move that leaves the client locked is a frame of the new backend, or one that leaves the
transfer as it is. So while a client is locked nothing is passed on, and what waits for it is
what the new backend has sent meanwhile.
-/

namespace Ferry

/-- The packets that a move brings from a new backend for the client. -/
def Session.arrived (session : Session) : Move → List BatchPacket
  | .event (.pending (some frame)) => session.arrivals frame
  | _ => []

/-- What has come of a session by a move that has left its client locked. -/
structure Session.LeavesLocked (session : Session) (move : Move) (after : Session) : Prop where
  link : after.pending.map (fun pending => pending.peer.link) =
    session.pending.map fun pending => pending.peer.link
  held : after.held = session.held ++ session.arrived move
  /-- Only a new backend can lock the client. -/
  locked : session.player.isLocked = true ∨ ∃ frame, move = .event (.pending (some frame))
  /-- The client has not said that it has left the old backend. -/
  silent : ∀ frame, move = .event (.client (some frame)) → session.askedByClient frame = []

namespace Session

variable {session after : Session} {move : Move}

/-- A move that leaves the transfer as it is. -/
theorem LeavesLocked.of_same (locked : session.player.isLocked = true)
    (transfer : after.player.transfer = session.player.transfer)
    (link : after.pending.map (fun pending => pending.peer.link) =
      session.pending.map fun pending => pending.peer.link)
    (nothing : session.arrived move = [])
    (silent : ∀ frame, move = .event (.client (some frame)) → session.askedByClient frame = []) :
    session.LeavesLocked move after := by
  refine ⟨link, ?_, .inl locked, silent⟩
  rw [nothing, List.append_nil]
  unfold Session.held
  rw [transfer]

end Session

namespace Work

variable {turn : SessionTurn} {frame : Bytes} {event : Event}

/-- What the work of an event has come to if it has left the client locked. -/
abbrev Binds (work : Work Unit) (turn : SessionTurn) (event : Event) : Prop :=
  work.Leads turn
    (fun _ after => after.session.exit = none → after.session.player.isLocked = true →
      turn.session.LeavesLocked (.event event) after.session)
    fun _ _ => True

/-- Work that does not leave the client locked. -/
theorem binds_of_free {work : Work Unit}
    (leads : work.Leads turn (fun _ after => after.session.player.isLocked = false)
      fun _ _ => True) : work.Binds turn event := by
  refine leads.mono (fun _ after free _ locked => ?_) fun _ _ _ => trivial
  exact absurd locked (by simp [free])

/-- Quiet work does not lock a client that is free. -/
theorem binds_of_quiet {work : Work Unit} (quiet : work.Quiet turn)
    (free : turn.session.player.isLocked = false) : work.Binds turn event :=
  binds_of_free (quiet.mono (fun _ _ proceeds => proceeds.keeps.free free) fun _ _ _ => trivial)

/-- What a frame of the client has come to if the client is locked behind it. -/
theorem binds_onClient (tidy : turn.session.Tidy) (going : turn.session.exit = none)
    (underway : turn.session.Underway) :
    (onClient frame).Binds turn (.client (some frame)) := by
  cases locked : turn.session.player.isLocked with
  | false =>
    have accounts := @accounts_onClient_of_free turn frame tidy ⟨going, underway, locked⟩
    exact binds_of_free (accounts.mono (fun _ _ both => both.2) fun _ _ _ => trivial)
  | true =>
    by_cases silent : turn.session.askedByClient frame = []
    · cases decoded : (turn.session.client.connection.decode frame).1 with
      | error fault => exact (leads_onClient_of_error decoded).mpr trivial
      | ok batch =>
        have same : (turn.session.fromClient batch).player.transfer =
          turn.session.player.transfer := process_client.1
        have lock : (turn.session.fromClient batch).player.isLocked = true := by
          unfold Player.isLocked
          rw [same]
          exact locked
        have idle : (turn.session.fromClient batch).actions = [] := by
          simpa [Session.askedByClient, decoded] using silent
        refine (leads_onClient decoded).mpr ?_
        simp only [lock, idle, Bool.not_true, Bool.and_false, Bool.false_eq_true, if_false,
          leads_pure]
        refine fun _ _ => .of_same locked same rfl rfl ?_
        rintro _ ⟨⟩
        exact silent
    · obtain ⟨pending, transfer, met, -, moving, away⟩ := (underway.2 going).of_locked locked
      have handed := handsOver_onClient tidy going underway met moving away silent
      exact binds_of_free (handed.mono (fun _ _ both => both.2.free) fun _ _ _ => trivial)

/-- What a frame of the backend has come to if the client is locked behind it. -/
theorem binds_onBackend (tidy : turn.session.Tidy) (going : turn.session.exit = none)
    (underway : turn.session.Underway) :
    (onBackend frame).Binds turn (.backend (some frame)) := by
  cases locked : turn.session.player.isLocked with
  | false =>
    have accounts := @accounts_onBackend_of_free turn frame tidy ⟨going, underway, locked⟩
    exact binds_of_free (accounts.mono (fun _ _ both => both.2) fun _ _ _ => trivial)
  | true =>
    have still {after : Session} (player : after.player = turn.session.player)
        (pending : after.pending = turn.session.pending) :
        turn.session.LeavesLocked (.event (.backend (some frame))) after :=
      .of_same locked (by rw [player]) (by rw [pending]) rfl (by simp)
    cases on : turn.session.backend with
    | none => exact (leads_onBackend_of_none on).mpr fun _ _ => still rfl rfl
    | some backend =>
      cases decoded : (backend.peer.connection.decode frame).1 with
      | error fault => exact (leads_onBackend_of_error on decoded).mpr trivial
      | ok batch => exact (leads_onBackend_of_locked on locked decoded).mpr fun _ _ => still rfl rfl

/-- A client on its way out goes on without the old backend. -/
theorem binds_loseBackend {message : Option String} (tidy : turn.session.Tidy)
    (course : turn.session.Course) : (loseBackend message).Binds turn (.backend none) := by
  cases locked : turn.session.player.isLocked with
  | false => exact binds_of_quiet (quiet_loseBackend tidy course) locked
  | true =>
    obtain ⟨pending, transfer, met, -, moving, away⟩ := course.of_locked locked
    cases on : turn.session.backend with
    | none =>
      exact (leads_loseBackend_of_none on).mpr fun _ _ => .of_same locked rfl rfl rfl (by simp)
    | some backend =>
      refine (leads_loseBackend_of_moving (by rw [on]; rfl) ?_ (.inl (by rw [moving]; rfl))).mpr
        fun _ _ => .of_same locked rfl rfl rfl (by simp)
      intro other same
      cases moving.symm.trans same
      simp [Transfer.isLocked, away]

/-- What a transfer that fails has come to if the client is locked behind it. -/
theorem binds_failTransfer {message : String} (tidy : turn.session.Tidy)
    (course : turn.session.Course) : (failTransfer message).Binds turn (.pending none) := by
  cases locked : turn.session.player.isLocked with
  | false => exact binds_of_quiet (quiet_failTransfer tidy) locked
  | true =>
    obtain ⟨pending, transfer, met, -, moving, away⟩ := course.of_locked locked
    have aimed : destination turn.session = some transfer.target := by simp [destination, moving]
    refine binds_of_free (leads_failTransfer.mpr ?_)
    rw [aimed]
    simp [Player.isLocked]

/-- While a client is on its way out, no connection is awaited. -/
theorem binds_onConnected {attempt : Nat} {result : Except String (Nat × Connection)}
    (tidy : turn.session.Tidy) (course : turn.session.Course) :
    (onConnected attempt result).Binds turn (.connected attempt result) := by
  cases locked : turn.session.player.isLocked with
  | false => exact binds_of_quiet (quiet_onConnected tidy) locked
  | true =>
    have uncalled : turn.session.connecting = none := by
      cases course with
      | departing _ _ uncalled => exact uncalled
      | arriving _ _ uncalled => exact uncalled
      | settled _ _ uncalled => exact uncalled
      | loggingIn _ _ uncalled => exact uncalled
      | dialing _ _ free => simp [Player.isLocked, free] at locked
    exact (leads_onConnected_of_other (by simp [uncalled])).mpr
      fun _ _ => .of_same locked rfl rfl rfl (by simp)

/-- What a call to another server has come to if the client is locked behind it. -/
theorem binds_onTransfer {server : Server} (tidy : turn.session.Tidy) :
    (onTransfer server).Binds turn (.transfer server) := by
  cases locked : turn.session.player.isLocked with
  | false => exact binds_of_quiet (quiet_onTransfer tidy) locked
  | true =>
    have moving : turn.session.player.transfer.isSome = true := by
      cases moving : turn.session.player.transfer with
      | none => simp [Player.isLocked, moving] at locked
      | some transfer => rfl
    have stays : turn.session.LeavesLocked (.event (.transfer server)) turn.session :=
      .of_same locked rfl rfl rfl (by simp)
    simp only [Binds, onTransfer, leads_bind, leads_session]
    split
    · exact (leads_connectTo_of_moving moving).mpr fun _ _ => stays
    · intro _ _
      exact stays

/-- What a tick has come to if the client is locked behind it. -/
theorem binds_tick : (onEvent .tick).Binds turn .tick := by
  let inv (session : Session) : Prop := session.player = turn.session.player ∧
    session.pending = turn.session.pending
  have flushed : (onEvent .tick).Leads turn (fun _ after => inv after.session)
      fun _ _ => True := by
    refine leads_bind.mpr
      ((leads_toClient_keeps inv fun _ => ⟨rfl, rfl⟩).mono ?_ fun _ _ _ => trivial)
    intro _ after here
    exact leads_toBackend_keeps inv here fun _ _ _ => here
  refine flushed.mono (fun _ after here _ locked => ?_) fun _ _ _ => trivial
  rw [here.1] at locked
  exact .of_same locked (by rw [here.1]) (by rw [here.2]) rfl (by simp)

/-- What an event comes to that leaves the client locked. -/
theorem binds_onEvent (tidy : turn.session.Tidy) (going : turn.session.exit = none)
    (underway : turn.session.Underway) : (onEvent event).Binds turn event := by
  have course := underway.2 going
  cases event with
  | client frame =>
    cases frame with
    | some frame => exact binds_onClient tidy going underway
    | none => exact fun exit => by cases exit
  | backend frame =>
    cases frame with
    | some frame => exact binds_onBackend tidy going underway
    | none => exact binds_loseBackend tidy course
  | pending frame =>
    cases frame with
    | some frame =>
      refine (brings_onPending tidy going course).mono ?_ fun _ _ _ => trivial
      intro _ after brings exit locked
      obtain ⟨link, held, -⟩ := brings exit locked
      exact ⟨link, held, .inr ⟨frame, rfl⟩, by simp⟩
    | none => exact binds_failTransfer tidy course
  | connected attempt result => exact binds_onConnected tidy course
  | tick => exact binds_tick
  | transfer server => exact binds_onTransfer tidy
  | disconnect reason => exact fun exit => by cases exit
  | severed link => exact fun _ locked => .of_same locked rfl rfl rfl (by simp)

end Work

namespace Session

variable {session : Session}

/-- Nothing is passed on by a move that leaves the client locked. -/
theorem LeavesLocked.unpassed {move : Move} {after : Session}
    (leaves : session.LeavesLocked move after) :
    session.passedIn move = [] ∧ session.passedOut move = [] := by
  cases move with
  | push packet => exact ⟨rfl, rfl⟩
  | event event =>
    have silent : session.inward event = [] ∧ session.outward event = [] := by
      rcases leaves.locked with locked | ⟨frame, same⟩
      · cases event with
        | client frame =>
          cases frame with
          | none => exact ⟨rfl, rfl⟩
          | some frame =>
            have unasked := leaves.silent frame rfl
            refine ⟨?_, by simp [outward, locked]⟩
            unfold inward released
            cases session.player.transfer <;> simp [unasked]
        | backend frame => cases frame <;> simp [inward, outward, locked]
        | _ => exact ⟨rfl, rfl⟩
      · cases same
        exact ⟨rfl, rfl⟩
    unfold passedIn passedOut
    cases session.stage <;> simp [silent.1, silent.2]

/-- What has come of a session by a move that has left its client locked. -/
theorem move_leavesLocked {move : Move} (sound : session.Sound)
    (locked : (session.move move).1.player.isLocked = true) :
    session.LeavesLocked move (session.move move).1 := by
  obtain ⟨coherent, tidy⟩ := sound
  cases move with
  | push packet => exact .of_same locked rfl rfl rfl (by simp)
  | event event =>
    simp only [Session.move] at locked ⊢
    cases coherent.handling event with
    | severed link =>
      refine .of_same locked rfl ?_ rfl (by simp)
      simp only [handle, sever, Option.map_map]
      congr 1
      funext pending
      simp only [Function.comp]
      split <;> rfl
    | idle _ still same =>
      rw [same] at locked
      simp [Player.isLocked, still] at locked
    | @joins server result _ bare same =>
      rw [same] at locked
      cases result with
      | ok there => simp [join, Player.isLocked, bare.transfer] at locked
      | error message =>
        simp only [join, after_shutdown] at locked
        cases locked
    | plays here playing going course =>
      refine handle_of_leads (fun turn => turn.session.player.isLocked = true →
        session.LeavesLocked (.event event) turn.session) playing here ?_ locked
      have binds : (Work.onEvent event).Binds ⟨session, []⟩ event :=
        Work.binds_onEvent tidy going ⟨playing, fun _ => course⟩
      refine binds.mono (fun _ after leaves => ⟨leaves, fun exit _ bound => ?_⟩) ?_
      · cases bound
      · intro _ after _ bound
        exact by cases bound

end Session

end Ferry
