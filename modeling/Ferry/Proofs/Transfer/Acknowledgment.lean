import Ferry.Proofs.Packet.Canonical
import Ferry.Proofs.Session.BackendRelay

/-!
# What the client acknowledges

A client acknowledges changes of dimension one by one. While a transfer is in progress every
acknowledgment is taken as one of the two that the transfer waits for: the first ends its first
phase, and the second ends the transfer.
-/

namespace Ferry

/-! ## Reading acknowledgments -/

/-- No packet of a batch that has come in has been read. -/
theorem Connection.decode_received {connection : Connection} {frame : Bytes} {batch : Batch}
    (decoded : (connection.decode frame).1 = .ok batch) :
    ∀ packet ∈ batch.packets, packet.decoded = none := by
  obtain ⟨uncompressed, -, parted⟩ := FrameCodec.decode_splits (decode_eq_ok_iff.mp decoded)
  intro packet mem
  rw [FrameCodec.received_of_split parted packet mem]
  rfl

/-- Whether a packet of the client acknowledges a change of dimension. -/
def BatchPacket.isAnswer (version : Version) (packet : BatchPacket) : Bool :=
  match packet.decode version with
  | .ok (.playerAction action) => action.action = PlayerAction.dimensionChangeSuccess
  | _ => false

/-- An acknowledgment is a packet that the handler looks at. -/
theorem BatchPacket.id_of_isAnswer {version : Version} {packet : BatchPacket}
    (received : packet.decoded = none) (answer : packet.isAnswer version = true) :
    packet.header.id = PacketId.playerAction := by
  unfold isAnswer at answer
  split at answer
  next action decoded =>
    unfold decode at decoded
    rw [received] at decoded
    exact (Packet.decode_id decoded).symm
  next => cases answer

/-- What the handler asks for on a packet of the client: that an acknowledgment is taken as one,
if a transfer is in progress. -/
theorem Handler.client_actions {player : Player} {packet : Packet} :
    (Handler.client.handle () player packet).actions =
      match packet with
      | .playerAction action =>
        if action.action = PlayerAction.dimensionChangeSuccess && player.transfer.isSome then
          [.dimensionChanged]
        else []
      | _ => [] := by
  cases packet with
  | playerAction action =>
    unfold Handler.client
    dsimp only
    split <;> rfl
  | _ => rfl

/-- During a transfer each acknowledgment of the client is taken as one. -/
theorem Bridge.cross_client {direction : Direction} {version : Version} {crossing : Crossing Unit}
    {packet : BatchPacket} (received : packet.decoded = none) :
    (cross Handler.client direction version crossing packet).actions = crossing.actions ++
      if packet.isAnswer version && crossing.player.transfer.isSome then [.dimensionChanged]
      else [] := by
  have ignored (unwanted : Handler.client.wants () packet.header.id = false) :
      packet.isAnswer version = false := by
    cases answer : packet.isAnswer version with
    | false => rfl
    | true =>
      rw [BatchPacket.id_of_isAnswer received answer] at unwanted
      cases unwanted
  unfold cross
  dsimp only
  split
  next noticed =>
    cases decoded : packet.decode version with
    | error fault => simp [BatchPacket.isAnswer, decoded]
    | ok value =>
      have asked : (handle Handler.client crossing.state crossing.player packet.header.id
          value).actions =
          if packet.isAnswer version && crossing.player.transfer.isSome then [.dimensionChanged]
          else [] := by
        unfold handle
        split
        · rw [show crossing.state = () from rfl, Handler.client_actions]
          unfold BatchPacket.isAnswer
          rw [decoded]
          cases value <;> simp
        next unwanted => simp [Handled.untouched, ignored (by simpa using unwanted)]
      rw [← asked]
      dsimp only
      split <;> rfl
  next unnoticed =>
    have unwanted : Handler.client.wants () packet.header.id = false := by
      simp [isNoticed] at unnoticed
      exact unnoticed.1.1
    simp [ignored unwanted]

/-- While a transfer is in progress, every acknowledgment among the packets is noted, and otherwise
none. -/
theorem Bridge.foldl_client {direction : Direction} {version : Version} {crossing : Crossing Unit}
    {packets : List BatchPacket} (received : ∀ packet ∈ packets, packet.decoded = none) :
    (packets.foldl (cross Handler.client direction version) crossing).actions =
      crossing.actions ++ if crossing.player.transfer.isSome then
        (packets.filter fun packet => packet.isAnswer version).map fun _ => .dimensionChanged
      else [] := by
  induction packets generalizing crossing with
  | nil => simp
  | cons packet packets ih =>
    obtain ⟨here, others⟩ := List.forall_mem_cons.mp received
    have same : (cross Handler.client direction version crossing packet).player.transfer =
        crossing.player.transfer := by
      refine cross_keeps (fun _ player _ => player.transfer = crossing.player.transfer) ?_ ?_ rfl
      · intro _ player _ packet kept
        exact (Handler.client_handle player packet).1.trans kept
      · intro _ _ _ _ kept
        exact kept
    rw [List.foldl_cons, ih others, cross_client here, same, List.append_assoc]
    congr 1
    cases crossing.player.transfer.isSome <;> cases answer : packet.isAnswer version <;>
      simp [answer]

namespace Session

variable {session : Session} {frame : Bytes}

/-- The acknowledgments in a frame from the client. -/
def answersIn (session : Session) (frame : Bytes) : List BatchPacket :=
  match (session.client.connection.decode frame).1 with
  | .ok batch =>
    batch.packets.filter fun packet => packet.isAnswer session.client.connection.version
  | .error _ => []

/-- The acknowledgments that a move brings. -/
def answers (session : Session) : Move → List BatchPacket
  | .event (.client (some frame)) =>
    match session.stage with
    | .playing => session.answersIn frame
    | _ => []
  | _ => []

/-- What a frame from the client asks for during a transfer: that each acknowledgment in it is
taken as one. -/
theorem askedByClient_of_moving (moving : session.player.transfer.isSome = true) :
    session.askedByClient frame = (session.answersIn frame).map fun _ => .dimensionChanged := by
  unfold askedByClient answersIn
  cases decoded : (session.client.connection.decode frame).1 with
  | error fault => rfl
  | ok batch =>
    have folded := @Bridge.foldl_client .serverbound session.client.connection.version
      ⟨(), session.player, [], BridgeReport.zero, []⟩ batch.packets
      (Connection.decode_received decoded)
    refine folded.trans ?_
    simp [moving]

end Session

/-! ## Taking acknowledgments -/

namespace Work

variable {turn : SessionTurn} {actions : List Action} {transfer : Transfer}

/-- Acknowledgments mean nothing to a player who is not being transferred. -/
theorem ended_actAll_client (ended : turn.session.player.transfer = none)
    (going : turn.session.exit = none) (asked : ∀ action ∈ actions, action = .dimensionChanged) :
    (actAll .client actions).Leads turn
      (fun _ after => after.session.player.transfer = none) fun _ _ => True := by
  refine leads_actAll (fun after => after.session.player.transfer = none) ?_ going ended
  intro action mem here _ finished
  cases asked action mem
  simp [act, acknowledge, finished]

/-- The transfer of a client that has arrived is over. -/
theorem ended_finishArrival : (finishArrival transfer).Leads turn
    (fun _ after => after.session.player.transfer = none) fun _ _ => True := by
  let ended (session : Session) : Prop := session.player.transfer = none
  refine leads_finishArrival.mpr
    ((leads_toClient_keeps ended fun _ => rfl).mono ?_ fun _ _ _ => trivial)
  intro _ after done
  split
  · exact leads_toBackend_keeps ended done fun _ _ _ => done
  · exact SessionTurn.abandoned_transfer

/-- An acknowledgment of a client that is arriving ends the transfer. -/
theorem ended_acknowledge (moving : turn.session.player.transfer = some transfer)
    (arriving : transfer.phase = .arriving) : acknowledge.Leads turn
      (fun _ after => after.session.player.transfer = none) fun _ _ => True := by
  simp only [acknowledge, leads_bind, leads_session, moving, Option.map_some,
    Transfer.acknowledge, arriving]
  exact ended_finishArrival

/-- An acknowledgment of a client that is on its way in ends the transfer. -/
theorem ended_actAll_of_arriving (moving : turn.session.player.transfer = some transfer)
    (arriving : transfer.phase = .arriving) (acted : actions ≠ [])
    (asked : ∀ action ∈ actions, action = .dimensionChanged) :
    (actAll .client actions).Leads turn
      (fun _ after => after.session.player.transfer = none) fun _ _ => True := by
  cases actions with
  | nil => exact absurd rfl acted
  | cons action rest =>
    obtain ⟨rfl, others⟩ := List.forall_mem_cons.mp asked
    refine leads_actAll_cons.mpr
      ((ended_acknowledge moving arriving).mono ?_ fun _ _ _ => trivial)
    intro _ after done
    split
    next goes => exact ended_actAll_client done (by simpa using goes) others
    next => exact done

/-- The first of two acknowledgments of a client that is on its way out ends the first phase, and
the second the transfer. -/
theorem ended_actAll_of_departing {pending : PendingBackend}
    (met : turn.session.pending = some pending)
    (moving : turn.session.player.transfer = some transfer)
    (departing : transfer.phase = .departing) (going : turn.session.exit = none)
    (twice : 2 ≤ actions.length) (asked : ∀ action ∈ actions, action = .dimensionChanged) :
    (actAll .client actions).Leads turn
      (fun _ after => after.session.player.transfer = none) fun _ _ => True := by
  obtain ⟨action, rest, rfl⟩ :=
    List.exists_cons_of_length_pos (Nat.lt_of_lt_of_le (by decide) twice)
  obtain ⟨rfl, others⟩ := List.forall_mem_cons.mp asked
  have more : rest ≠ [] := by
    rintro rfl
    simp at twice
  let left (session : Session) : Prop := session.exit = none ∧ ∃ onward,
    session.player.transfer = some onward ∧ onward.phase = .arriving
  have first : acknowledge.Leads turn (fun _ after => left after.session) fun _ _ => True := by
    simp only [acknowledge, leads_bind, leads_session, moving, Option.map_some,
      Transfer.acknowledge, departing]
    refine (leads_finishDeparture met).mpr (Leads.mono (leads_toClient_keeps left ?_) ?_
      fun _ _ _ => trivial)
    · intro _
      exact ⟨going, _, rfl, rfl⟩
    · intro _ after here
      exact leads_toClient_keeps left fun _ => here
  refine leads_actAll_cons.mpr (first.mono ?_ fun _ _ _ => trivial)
  rintro _ after ⟨goes, onward, moves, arriving⟩
  rw [if_pos (by simp [goes])]
  exact ended_actAll_of_arriving moves arriving more others

/-- A frame with an acknowledgment for each phase that is not over yet ends the transfer. -/
theorem ended_onClient {frame : Bytes} (going : turn.session.exit = none)
    (moving : turn.session.player.transfer = some transfer)
    (enough : (transfer.phase = .arriving ∧ turn.session.answersIn frame ≠ []) ∨
      (transfer.phase = .departing ∧ turn.session.pending.isSome = true ∧
        2 ≤ (turn.session.answersIn frame).length)) :
    (onClient frame).Leads turn
      (fun _ after => after.session.player.transfer = none) fun _ _ => True := by
  cases decoded : (turn.session.client.connection.decode frame).1 with
  | error fault => exact (leads_onClient_of_error decoded).mpr trivial
  | ok batch =>
    obtain ⟨same, asked⟩ := @process_client .serverbound turn.session.client.connection.version
      turn.session.player batch
    have actions : (turn.session.fromClient batch).actions =
        (turn.session.answersIn frame).map fun _ => .dimensionChanged := by
      rw [← Session.askedByClient_of_moving (by rw [moving]; rfl)]
      simp [Session.askedByClient, decoded]
    let still (session : Session) : Prop := session.exit = none ∧
      session.player.transfer = some transfer ∧ session.pending = turn.session.pending
    have took : still (turn.tookFromClient frame batch).session :=
      ⟨going, same.trans moving, rfl⟩
    have written : (if !(turn.session.fromClient batch).batch.packets.isEmpty &&
          !(turn.session.fromClient batch).player.isLocked then
        toBackend fun peer => peer.write (turn.session.fromClient batch).batch
      else pure ()).Leads (turn.tookFromClient frame batch)
        (fun _ after => still after.session) fun _ _ => True := by
      split
      · exact leads_toBackend_keeps still took fun _ _ _ => took
      · exact took
    refine (leads_onClient decoded).mpr (written.mono ?_ fun _ _ _ => trivial)
    rintro _ after ⟨goes, moves, stays⟩
    rcases enough with ⟨arriving, acted⟩ | ⟨departing, met, twice⟩
    · refine ended_actAll_of_arriving moves arriving ?_ asked
      rw [actions]
      simpa using acted
    · obtain ⟨pending, met⟩ := Option.isSome_iff_exists.mp met
      refine ended_actAll_of_departing (stays.trans met) moves departing goes ?_ asked
      rw [actions]
      simpa using twice

end Work

namespace Session

variable {session : Session} {frame : Bytes} {transfer : Transfer}

/-- The transfer is over once the client has acknowledged both changes of dimension. -/
theorem move_ends (coherent : session.Coherent)
    (moving : session.player.transfer = some transfer)
    (enough : (transfer.phase = .arriving ∧ session.answersIn frame ≠ []) ∨
      (transfer.phase = .departing ∧ 2 ≤ (session.answersIn frame).length)) :
    (session.move (.event (.client (some frame)))).1.player.transfer = none := by
  cases coherent with
  | closed _ _ _ still => cases moving.symm.trans still
  | joining _ bare => cases moving.symm.trans bare.transfer
  | playing playing going course =>
    have enough : (transfer.phase = .arriving ∧ session.answersIn frame ≠ []) ∨
        (transfer.phase = .departing ∧ session.pending.isSome = true ∧
          2 ≤ (session.answersIn frame).length) := by
      rcases enough with arrives | ⟨departing, twice⟩
      · exact .inl arrives
      · have locked : session.player.isLocked = true := by
          simp [Player.isLocked, moving, Transfer.isLocked, departing]
        obtain ⟨pending, -, met, -⟩ := course.of_locked locked
        exact .inr ⟨departing, by rw [met]; rfl, twice⟩
    have ended : (Work.onEvent (.client (some frame))).Leads ⟨session, []⟩ _ _ :=
      Work.ended_onClient going moving enough
    refine handle_of_leads (fun turn => turn.session.player.transfer = none) playing (by simp)
      (ended.mono ?_ fun _ _ _ => rfl)
    intro _ after done
    exact ⟨fun _ => done, fun _ _ => rfl⟩

/-! ## Runs -/

/-- Whether the client is on its way into the new backend's dimension. -/
def isArriving (session : Session) : Bool :=
  session.player.transfer.any fun transfer => transfer.phase = .arriving

/-- Nothing is acknowledged by a move that leaves the client locked. -/
theorem LeavesLocked.unanswered {move : Move} {after : Session}
    (leaves : session.LeavesLocked move after) : session.answers move = [] := by
  unfold answers
  split
  next frame =>
    have moving : session.player.transfer.isSome = true := by
      rcases leaves.locked with locked | ⟨other, same⟩
      · cases moving : session.player.transfer with
        | none => simp [Player.isLocked, moving] at locked
        | some transfer => rfl
      · cases same
    have silent := leaves.silent frame rfl
    rw [askedByClient_of_moving moving, List.map_eq_nil_iff] at silent
    rw [silent]
    split <;> rfl
  next => rfl

/-- Nothing is acknowledged by a move that leaves the client on its way in. -/
theorem answers_of_arriving {move : Move} (coherent : session.Coherent)
    (before : session.isArriving = true) (after : (session.move move).1.isArriving = true) :
    session.answers move = [] := by
  unfold answers
  split
  next frame =>
    obtain ⟨transfer, moving, arriving⟩ : ∃ transfer, session.player.transfer = some transfer ∧
        transfer.phase = .arriving := by
      simpa [isArriving, Option.any_eq_true] using before
    have unanswered : session.answersIn frame = [] := by
      cases answered : session.answersIn frame with
      | nil => rfl
      | cons answer rest =>
        have ended := move_ends coherent moving (.inl ⟨arriving, by rw [answered]; simp⟩)
        simp [isArriving, ended] at after
    rw [unanswered]
    split <;> rfl
  next => rfl

/-- A client that is on its way out throughout a run acknowledges nothing. -/
theorem gathered_answers_of_locked {moves : List Move} (start : Move) (sound : session.Sound)
    (locked : (session.move start).1.throughout (fun here => here.player.isLocked) moves = true) :
    session.gathered answers (start :: moves) = [] := by
  induction moves generalizing session start with
  | nil =>
    have leaves := move_leavesLocked sound locked
    simp [gathered, leaves.unanswered]
  | cons move moves ih =>
    have leaves := move_leavesLocked sound (throughout_head locked)
    rw [gathered, leaves.unanswered,
      ih move (move_sound session start sound) (throughout_cons.mp locked).2]
    rfl

/-- A client that is on its way in throughout a run acknowledges nothing. -/
theorem gathered_answers_of_arriving {moves : List Move} (coherent : session.Coherent)
    (arriving : session.throughout isArriving moves = true) :
    session.gathered answers moves = [] := by
  induction moves generalizing session with
  | nil => rfl
  | cons move moves ih =>
    obtain ⟨here, others⟩ := throughout_cons.mp arriving
    rw [gathered, answers_of_arriving coherent here (throughout_head others),
      ih (move_coherent session move coherent) others]
    rfl

end Session

end Ferry
