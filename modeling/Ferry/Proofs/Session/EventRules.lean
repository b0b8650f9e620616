import Ferry.Proofs.Bridge.Handling
import Ferry.Proofs.Session.Runs
import Ferry.Proofs.Session.PlayerMoves
import Ferry.Proofs.Frame.Splitting

/-!
# What the events of a session come to

One statement for each kind of event: the turn from which the actions of a batch start, or
the task that the event comes down to.
-/

namespace Ferry

/-- What comes of a batch from the client. -/
def Session.fromClient (session : Session) (batch : Batch) : Bridge.Result Unit :=
  Bridge.process Handler.client .serverbound session.client.connection.version ()
    session.player batch

/-- What comes of a batch from the backend that the player is on. -/
def Session.fromBackend (session : Session) (backend : Backend) (batch : Batch) :
    Bridge.Result Unit :=
  Bridge.process (Handler.backend backend.server) .clientbound
    backend.peer.connection.version () session.player batch

/-- What comes of a batch from the backend that the player is moving to. -/
def Session.fromPending (session : Session) (pending : PendingBackend) (batch : Batch) :
    Bridge.Result Arrival :=
  Bridge.process Handler.arrival .clientbound pending.peer.connection.version
    pending.arrival session.player batch

/-- The player once the packets that have crossed wait for the client, and what that causes. -/
def Session.keptFromPending (session : Session) (pending : PendingBackend) (batch : Batch) :
    Player × List Action :=
  let result := session.fromPending pending batch
  if result.state.started && !result.batch.packets.isEmpty then
    Work.keepWaiting result.player result.batch
  else (result.player, [])

/-- All that a batch from the backend that the player is moving to asks for. -/
def Session.askedByPending (session : Session) (pending : PendingBackend) (batch : Batch) :
    List Action :=
  (session.fromPending pending batch).actions ++ (session.keptFromPending pending batch).2

/-- The peer once it has opened a frame. -/
def Peer.decoding (peer : Peer) (frame : Bytes) : Peer :=
  { peer with connection := (peer.connection.decode frame).2.1 }

/-- What is counted when a peer opens a frame. -/
def Peer.decodingCounted (peer : Peer) (frame : Bytes) : List Output :=
  (peer.connection.decode frame).2.2.map Output.counted

/-- The turn in which a batch from the client has been looked at. -/
def SessionTurn.tookFromClient (turn : SessionTurn) (frame : Bytes) (batch : Batch) :
    SessionTurn :=
  let result := turn.session.fromClient batch
  ⟨{ turn.session with
      client := turn.session.client.decoding frame
      player := result.player },
    turn.outputs ++ turn.session.client.decodingCounted frame ++
      result.counted.map Output.counted⟩

/-- The turn in which a batch from the backend has been looked at. -/
def SessionTurn.tookFromBackend (turn : SessionTurn) (backend : Backend) (frame : Bytes)
    (batch : Batch) : SessionTurn :=
  let result := turn.session.fromBackend backend batch
  ⟨{ turn.session with
      backend := some { backend with peer := backend.peer.decoding frame }
      player := result.player },
    turn.outputs ++ backend.peer.decodingCounted frame ++ result.counted.map Output.counted⟩

/-- The turn in which a batch from the backend that the player is moving to has been looked at,
and waits for the client. -/
def SessionTurn.tookFromPending (turn : SessionTurn) (pending : PendingBackend) (frame : Bytes)
    (batch : Batch) : SessionTurn :=
  let result := turn.session.fromPending pending batch
  ⟨{ turn.session with
      pending := some ⟨pending.peer.decoding frame, result.state⟩
      player := (turn.session.keptFromPending pending batch).1 },
    turn.outputs ++ pending.peer.decodingCounted frame ++ result.counted.map Output.counted⟩

/-- Opening a frame does not change the version that packets are written in. -/
@[simp] theorem Connection.decode_version {connection : Connection} {frame : Bytes} :
    (connection.decode frame).2.1.version = connection.version := FrameCodec.decode_version

/-- A connection accepts the frames that its codec accepts. -/
theorem Connection.decode_eq_ok_iff {connection : Connection} {frame : Bytes} {batch : Batch} :
    (connection.decode frame).1 = .ok batch ↔ (connection.codec.decode frame).1 = .ok batch := by
  unfold Connection.decode
  dsimp only
  cases (connection.codec.decode frame).1 with
  | error fault =>
    constructor
    · intro same
      cases same
    · intro same
      cases same
  | ok found =>
    constructor
    · intro same
      cases same
      rfl
    · intro same
      cases same
      rfl

/-- A batch that has come in does not overtake what is queued. -/
theorem Connection.decode_skipQueue {connection : Connection} {frame : Bytes} {batch : Batch}
    (decoded : (connection.decode frame).1 = .ok batch) : batch.skipQueue = false := by
  obtain ⟨payload, opened⟩ := FrameCodec.decode_opens (decode_eq_ok_iff.mp decoded)
  obtain ⟨_, _, _, _, -, -, -, -, rfl⟩ := FrameCodec.open_eq_ok_iff.mp opened
  rfl

namespace Peer

variable {peer : Peer} {frame : Bytes}

@[simp] theorem decoding_link : (peer.decoding frame).link = peer.link := rfl

/-- What is counted while a frame is opened is not heard. -/
@[simp] theorem decodingCounted_silent {on : LinkId → Bool} :
    heardOn on (peer.decodingCounted frame) = [] := heardOn_counted

end Peer

namespace Work

variable {turn : SessionTurn} {done : Unit → SessionTurn → Prop}
  {failed : SessionError → SessionTurn → Prop} {frame : Bytes} {batch : Batch}

/-! ## Waiting -/

/-- Letting packets wait changes nothing about a player but what waits. -/
theorem keepWaiting_player {player : Player} : (keepWaiting player batch).1 =
    { player with transfer := player.transfer.map fun transfer =>
      { transfer with waiting := (transfer.waiting.push batch).2 } } := by
  unfold keepWaiting
  cases moving : player.transfer with
  | none => cases player; simp_all
  | some transfer => cases pushed : (transfer.waiting.push batch).1 <;> simp [pushed]

/-- All that comes of letting packets wait is that the transfer may fail. -/
theorem keepWaiting_actions {player : Player} {action : Action}
    (mem : action ∈ (keepWaiting player batch).2) :
    ∃ message, action = .transferFailed message := by
  unfold keepWaiting at mem
  cases moving : player.transfer with
  | none => simp [moving] at mem
  | some transfer =>
    cases pushed : (transfer.waiting.push batch).1 with
    | ok done => simp [moving, pushed] at mem
    | error fault =>
      simp only [moving, pushed, List.mem_singleton] at mem
      exact ⟨fault.message, mem⟩

/-- Nothing about a transfer changes with the packets of a new backend that wait, but what waits. -/
theorem keptFromPending_transfer {session : Session} {pending : PendingBackend}
    {transfer : Transfer}
    (moving : (session.keptFromPending pending batch).1.transfer = some transfer) :
    ∃ base waiting, (session.fromPending pending batch).player.transfer = some base ∧
      transfer = { base with waiting := waiting } := by
  unfold Session.keptFromPending at moving
  dsimp only at moving
  split at moving
  · rw [keepWaiting_player] at moving
    obtain ⟨base, began, same⟩ := Option.map_eq_some_iff.mp moving
    exact ⟨base, _, began, same.symm⟩
  · exact ⟨transfer, _, moving, rfl⟩

/-- How far the transfer has got, and where it goes, does not depend on what waits. -/
theorem keptFromPending_aim {session : Session} {pending : PendingBackend} :
    ((session.keptFromPending pending batch).1.transfer.map fun transfer =>
        (transfer.phase, transfer.target)) =
      (session.fromPending pending batch).player.transfer.map fun transfer =>
        (transfer.phase, transfer.target) := by
  unfold Session.keptFromPending
  dsimp only
  split
  · simp [keepWaiting_player, Function.comp_def]
  · rfl

/-- What a batch of a new backend leads to. -/
theorem fromPending_progress (session : Session) (pending : PendingBackend) (batch : Batch) :
    pending.arrival.Progress session.player.transfer (session.fromPending pending batch).state
      (session.fromPending pending batch).player.transfer
      (session.fromPending pending batch).actions :=
  process_arrival

/-- Packets that wait for the client can only make the transfer fail. -/
theorem keptFromPending_actions {session : Session} {pending : PendingBackend} {action : Action}
    (mem : action ∈ (session.keptFromPending pending batch).2) :
    ∃ message, action = .transferFailed message := by
  unfold Session.keptFromPending at mem
  dsimp only at mem
  split at mem
  · exact keepWaiting_actions mem
  · cases mem

/-- A batch of a new backend asks for nothing that others ask for. -/
theorem askedByPending_own {session : Session} {pending : PendingBackend} {action : Action}
    (mem : action ∈ session.askedByPending pending batch) : action.isOfArrival = true := by
  rcases List.mem_append.mp mem with mem | mem
  · exact (fromPending_progress session pending batch).own action mem
  · obtain ⟨message, rfl⟩ := keptFromPending_actions mem
    rfl

/-! ## Actions in a row -/

/-- The first action is done first, and may want the session to end. -/
theorem leads_actAll_cons {source : BatchSource} {action : Action} {actions : List Action} :
    (actAll source (action :: actions)).Leads turn done failed ↔
      (act source action).Leads turn (fun _ after =>
        if after.session.exit.isNone then (actAll source actions).Leads after done failed
        else done () after) failed := by
  simp only [actAll, leads_bind, leads_session]
  refine iff_of_eq (congrArg (fun next => Leads _ _ next failed) ?_)
  ext _ after
  cases after.session.exit <;> simp

/-- What each action keeps, actions in a row keep. -/
theorem leads_actAll {source : BatchSource} {actions : List Action}
    (inv : SessionTurn → Prop)
    (step : ∀ action ∈ actions, ∀ turn, turn.session.exit = none → inv turn →
      (act source action).Leads turn (fun _ after => inv after) failed)
    (going : turn.session.exit = none) (holds : inv turn) :
    (actAll source actions).Leads turn (fun _ after => inv after) failed := by
  induction actions generalizing turn with
  | nil => exact holds
  | cons action actions ih =>
    rw [leads_actAll_cons]
    refine (step action List.mem_cons_self turn going holds).mono ?_ fun _ _ fault => fault
    intro _ after kept
    split
    next goes =>
      exact ih (fun action mem => step action (List.mem_cons_of_mem _ mem))
        (by simpa using goes) kept
    next => exact kept

/-! ## Frames -/

/-- A batch from the client goes on to the backend, unless the client is locked, and then what
it asks for is done. -/
theorem leads_onClient
    (decoded : (turn.session.client.connection.decode frame).1 = .ok batch) :
    let result := turn.session.fromClient batch
    (onClient frame).Leads turn done failed ↔
      (if !result.batch.packets.isEmpty && !result.player.isLocked then
          toBackend fun peer => peer.write result.batch
        else pure ()).Leads
        (turn.tookFromClient frame batch)
        (fun _ after => (actAll .client result.actions).Leads after done failed) failed := by
  intro result
  simp only [onClient, leads_bind, leads_session, leads_update, leads_tell, decoded,
    leads_updatePlayer, Connection.decode_version]
  change Leads (if !result.batch.packets.isEmpty && !result.player.isLocked then _ else _)
    _ _ _ ↔ _
  cases !result.batch.packets.isEmpty && !result.player.isLocked with
  | true => simp only [if_true, leads_bind]; exact Iff.rfl
  | false => simp only [Bool.false_eq_true, if_false, leads_pure]; exact Iff.rfl

/-- A frame from the client that cannot be opened ends the session. -/
theorem leads_onClient_of_error {fault : ConnectionError}
    (decoded : (turn.session.client.connection.decode frame).1 = .error fault) :
    (onClient frame).Leads turn done failed ↔
      failed (.connection fault)
        ⟨{ turn.session with client := turn.session.client.decoding frame },
          turn.outputs ++ turn.session.client.decodingCounted frame⟩ := by
  simp only [onClient, leads_bind, leads_session, leads_update, leads_tell, decoded, leads_throw]
  exact Iff.rfl

/-- A frame of a backend that is gone leads nowhere. -/
theorem leads_onBackend_of_none (gone : turn.session.backend = none) :
    (onBackend frame).Leads turn done failed ↔ done () turn := by
  simp [onBackend, gone]

/-- A batch from the backend goes on to the client, and then what it asks for is done. -/
theorem leads_onBackend {backend : Backend} (on : turn.session.backend = some backend)
    (free : turn.session.player.isLocked = false)
    (decoded : (backend.peer.connection.decode frame).1 = .ok batch) :
    let result := turn.session.fromBackend backend batch
    (onBackend frame).Leads turn done failed ↔
      (if !result.batch.packets.isEmpty then
          toClient fun peer => peer.write result.batch
        else pure ()).Leads
        (turn.tookFromBackend backend frame batch)
        (fun _ after => (actAll .backend result.actions).Leads after done failed) failed := by
  intro result
  simp only [onBackend, leads_bind, leads_session, leads_update, leads_tell, decoded, on, free,
    leads_updatePlayer, Connection.decode_version, Bool.not_false, if_true]
  change Leads (if !result.batch.packets.isEmpty then _ else _) _ _ _ ↔ _
  cases !result.batch.packets.isEmpty with
  | true => simp only [if_true, leads_bind]; exact Iff.rfl
  | false => simp only [Bool.false_eq_true, if_false, leads_pure]; exact Iff.rfl

/-- A batch from the backend goes nowhere while the client is locked. -/
theorem leads_onBackend_of_locked {backend : Backend} (on : turn.session.backend = some backend)
    (locked : turn.session.player.isLocked = true)
    (decoded : (backend.peer.connection.decode frame).1 = .ok batch) :
    (onBackend frame).Leads turn done failed ↔
      done () ⟨{ turn.session with
          backend := some { backend with peer := backend.peer.decoding frame } },
        turn.outputs ++ backend.peer.decodingCounted frame⟩ := by
  simp only [onBackend, leads_bind, leads_session, leads_update, leads_tell, decoded, on, locked,
    Bool.not_true, Bool.false_eq_true, if_false, leads_pure]
  exact Iff.rfl

/-- A frame from the backend that cannot be opened ends the session. -/
theorem leads_onBackend_of_error {backend : Backend} {fault : ConnectionError}
    (on : turn.session.backend = some backend)
    (decoded : (backend.peer.connection.decode frame).1 = .error fault) :
    (onBackend frame).Leads turn done failed ↔
      failed (.connection fault) ⟨{ turn.session with
          backend := some { backend with peer := backend.peer.decoding frame } },
        turn.outputs ++ backend.peer.decodingCounted frame⟩ := by
  simp only [onBackend, leads_bind, leads_session, leads_update, leads_tell, decoded, on,
    leads_throw]
  exact Iff.rfl

/-- A frame of a new backend that is gone leads nowhere. -/
theorem leads_onPending_of_none (gone : turn.session.pending = none) :
    (onPending frame).Leads turn done failed ↔ done () turn := by
  simp [onPending, gone]

/-- A batch from the backend that the player is moving to waits for the client, once that
backend has spawned the player, and what it asks for is done. -/
theorem leads_onPending {pending : PendingBackend} (met : turn.session.pending = some pending)
    (decoded : (pending.peer.connection.decode frame).1 = .ok batch) :
    (onPending frame).Leads turn done failed ↔
      (actAll .pending (turn.session.askedByPending pending batch)).Leads
        (turn.tookFromPending pending frame batch) done failed := by
  simp only [onPending, leads_bind, leads_session, leads_update, leads_tell, decoded, met,
    Connection.decode_version]
  exact Iff.rfl

/-- A frame that cannot be opened fails the transfer. -/
theorem leads_onPending_of_error {pending : PendingBackend} {fault : ConnectionError}
    (met : turn.session.pending = some pending)
    (decoded : (pending.peer.connection.decode frame).1 = .error fault) :
    (onPending frame).Leads turn done failed ↔
      (failTransfer fault.message).Leads
        ⟨{ turn.session with
            pending := some { pending with peer := pending.peer.decoding frame } },
          turn.outputs ++ pending.peer.decodingCounted frame⟩ done failed := by
  simp only [onPending, leads_bind, leads_session, leads_update, leads_tell, decoded, met]
  exact Iff.rfl

/-! ## Connections -/

/-- A connection that nobody waits for is ignored. -/
theorem leads_onConnected_of_other {attempt : Nat} {result : Except String (Nat × Connection)}
    (other : ∀ connecting, turn.session.connecting = some connecting →
      connecting.attempt ≠ attempt) :
    (onConnected attempt result).Leads turn done failed ↔ done () turn := by
  have nobody : turn.session.connecting.filter (fun connecting => connecting.attempt = attempt) =
      none := by
    simpa [Option.filter_eq_none_iff] using other
  simp [onConnected, nobody]

/-- The player logs in on a connection that was called for. -/
theorem leads_onConnected_of_ok {attempt number : Nat} {connection : Connection}
    {connecting : Connecting} (called : turn.session.connecting = some connecting)
    (same : connecting.attempt = attempt) :
    (onConnected attempt (.ok (number, connection))).Leads turn done failed ↔
      done () ⟨{ turn.session with
          connecting := none
          pending := some ⟨turn.session.backendPeer number connection,
            Arrival.start connecting.source connecting.server
              turn.session.services.waitingLimits⟩ }, turn.outputs⟩ := by
  simp only [onConnected, leads_bind, leads_session, called, same, Option.filter, decide_true,
    if_true, leads_update]
  exact Iff.rfl

/-- A connection that is not to be had fails the transfer. -/
theorem leads_onConnected_of_error {attempt : Nat} {message : String}
    {connecting : Connecting} (called : turn.session.connecting = some connecting)
    (same : connecting.attempt = attempt) :
    (onConnected attempt (.error message)).Leads turn done failed ↔
      done () (SessionTurn.abandoned
        ⟨{ turn.session with connecting := none }, turn.outputs⟩ connecting.server message) := by
  simp only [onConnected, leads_bind, leads_session, called, same, Option.filter, decide_true,
    if_true, leads_update, leads_abandonTransfer]

/-- A connection changes nothing unless it was called for. If so, it is had or missed. -/
theorem leads_onConnected {attempt : Nat} {result : Except String (Nat × Connection)}
    (other : done () turn)
    (missed : ∀ server message, done () (SessionTurn.abandoned
      ⟨{ turn.session with connecting := none }, turn.outputs⟩ server message))
    (had : turn.session.connecting.isSome = true → ∀ number connection arrival,
      arrival.started = false → done () ⟨{ turn.session with
        connecting := none
        pending := some ⟨turn.session.backendPeer number connection, arrival⟩ }, turn.outputs⟩) :
    (onConnected attempt result).Leads turn done failed := by
  by_cases uncalled : ∀ connecting, turn.session.connecting = some connecting →
      connecting.attempt ≠ attempt
  · exact (leads_onConnected_of_other uncalled).mpr other
  · obtain ⟨connecting, called, same⟩ : ∃ connecting,
        turn.session.connecting = some connecting ∧ connecting.attempt = attempt := by
      simpa using uncalled
    cases result with
    | error message => exact (leads_onConnected_of_error called same).mpr (missed _ _)
    | ok there =>
      exact (leads_onConnected_of_ok called same).mpr
        (had (by rw [called]; rfl) there.1 there.2 _ rfl)

end Work

end Ferry
