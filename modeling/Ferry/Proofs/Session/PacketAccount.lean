import Ferry.Proofs.Session.PassedPackets

/-!
# The account of a session

For each move of a session, the packets that it brings from a backend to the client, and those
that it brings from the client to a backend. All else that is written the proxy has made itself.
-/

namespace Ferry

namespace Session

/-- What a frame from the client asks for. -/
def askedByClient (session : Session) (frame : Bytes) : List Action :=
  match (session.client.connection.decode frame).1 with
  | .ok batch => (session.fromClient batch).actions
  | .error _ => []

/-- What is known about the player once a frame from the client has been looked at. -/
def playerAfterClient (session : Session) (frame : Bytes) : Player :=
  match (session.client.connection.decode frame).1 with
  | .ok batch => (session.fromClient batch).player
  | .error _ => session.player

/-- The packets of a frame from the client that cross to the backend's side. -/
def crossedFromClient (session : Session) (frame : Bytes) : List BatchPacket :=
  match (session.client.connection.decode frame).1 with
  | .ok batch => (session.fromClient batch).batch.packets
  | .error _ => []

/-- The packets of a frame from the backend that cross to the client's side. -/
def crossedFromBackend (session : Session) (frame : Bytes) : List BatchPacket :=
  match session.backend with
  | none => []
  | some backend =>
    match (backend.peer.connection.decode frame).1 with
    | .ok batch => (session.fromBackend backend batch).batch.packets
    | .error _ => []

/-- What a frame from the client releases: all that has waited for it, if the client is on its
way out and the frame says that it has left. -/
def released (session : Session) (frame : Bytes) : List BatchPacket :=
  match session.player.transfer with
  | some transfer =>
    if transfer.isLocked && !(session.askedByClient frame).isEmpty then transfer.waiting.packets
    else []
  | none => []

/-- The packets of backends that an event brings to an open client. -/
def inward (session : Session) : Event → List BatchPacket
  | .client (some frame) => session.released frame
  | .backend (some frame) =>
    if session.player.isLocked then [] else session.crossedFromBackend frame
  | _ => []

/-- The packets of the client that an event brings to an open backend. -/
def outward (session : Session) : Event → List BatchPacket
  | .client (some frame) =>
    if session.player.isLocked then [] else session.crossedFromClient frame
  | _ => []

/-- A session that goes on with a client that is not locked. -/
structure IsFree (session : Session) : Prop where
  going : session.exit = none
  underway : session.Underway
  free : session.player.isLocked = false

/-- A session is free whatever its peers are. -/
theorem IsFree.congr {session other : Session} (isFree : session.IsFree)
    (stage : other.stage = session.stage) (exit : other.exit = session.exit)
    (backend : other.backend.map Backend.server = session.backend.map Backend.server)
    (pending : other.pending.map PendingBackend.arrival =
      session.pending.map PendingBackend.arrival)
    (connecting : other.connecting = session.connecting)
    (transfer : other.player.transfer = session.player.transfer) : other.IsFree := by
  refine ⟨exit.trans isFree.going,
    isFree.underway.congr stage exit backend pending connecting (by rw [transfer]), ?_⟩
  unfold Player.isLocked
  rw [transfer]
  exact isFree.free

end Session

namespace Work

variable {turn : SessionTurn} {frame : Bytes}

/-- A batch is passed on, and then what it asks for is done, which passes nothing on and does
not lock the client. -/
theorem accounts_passOn {write : Work Unit} {middle : SessionTurn} {source : BatchSource}
    {actions : List Action} {inward outward : List BatchPacket}
    (accounts : write.Leads middle (fun _ after => turn.Accounted inward outward after)
      fun _ after => turn.Accounted inward outward after)
    (kept : write.Leads middle (fun _ after => after.session.IsFree) fun _ _ => True)
    (asked : ∀ action ∈ actions,
      action = .dimensionChanged ∨ ∃ message, action = .kicked message) :
    write.Leads middle
      (fun _ after => (actAll source actions).Leads after
        (fun _ last => turn.Accounted inward outward last ∧ last.session.player.isLocked = false)
        fun _ last => turn.Accounted inward outward last)
      fun _ after => turn.Accounted inward outward after := by
  refine (accounts.and kept).mono ?_ fun _ _ both => both.1
  rintro _ after ⟨accounted, going, underway, free⟩
  have quiet : (actAll source actions).Quiet after :=
    quiet_actAll accounted.passes.tidy going underway free asked
  exact quiet.mono (fun _ _ next => ⟨accounted.andThen next, next.keeps.free free⟩)
    fun _ _ next => accounted.andThen next

/-! ## Frames from the client -/

/-- The session once a frame from the client was opened and looked at. -/
theorem tookFromClient_proceeds {batch : Batch} (tidy : turn.session.Tidy) :
    turn.Proceeds (turn.tookFromClient frame batch) := by
  have same : (turn.session.fromClient batch).player.transfer = turn.session.player.transfer :=
    process_client.1
  have lock : (turn.session.fromClient batch).player.isLocked = turn.session.player.isLocked := by
    unfold Player.isLocked
    rw [same]
  refine .silent ⟨tidy.client.of_same rfl rfl, tidy.backend, ?_, tidy.pending⟩ rfl
    ⟨lock.trans, fun _ => id⟩ (List.append_assoc _ _ _) fun on => ?_
  · intro backend on free
    exact tidy.active backend on (lock.symm.trans free)
  · rw [heardOn_append, Peer.decodingCounted_silent, heardOn_counted, List.append_nil]

/-- A frame of the client that is not decoded passes nothing on. -/
theorem quiet_onClient_of_error {fault : ConnectionError} (tidy : turn.session.Tidy)
    (decoded : (turn.session.client.connection.decode frame).1 = .error fault) :
    (onClient frame).Quiet turn := by
  exact (leads_onClient_of_error decoded).mpr (.silent
    ⟨tidy.client.of_same rfl rfl, tidy.backend, tidy.active, tidy.pending⟩ rfl ⟨id, fun _ => id⟩ rfl
    fun _ => Peer.decodingCounted_silent)

/-- A free client's frame goes on to the backend, if that is there and open. -/
theorem accounts_onClient_of_free (tidy : turn.session.Tidy) (isFree : turn.session.IsFree) :
    (onClient frame).AccountsFree turn []
      (turn.session.ifServed (turn.session.crossedFromClient frame)) := by
  cases decoded : (turn.session.client.connection.decode frame).1 with
  | error fault =>
    have nothing : turn.session.crossedFromClient frame = [] := by
      simp [Session.crossedFromClient, decoded]
    rw [nothing, Session.ifServed_nil]
    exact (quiet_onClient_of_error tidy decoded).accountsFree isFree.free
  | ok batch =>
    have took := @tookFromClient_proceeds turn frame batch tidy
    obtain ⟨same, asked⟩ := @process_client .serverbound turn.session.client.connection.version
      turn.session.player batch
    have crossed : turn.session.crossedFromClient frame =
        (turn.session.fromClient batch).batch.packets := by
      simp [Session.crossedFromClient, decoded]
    have queued : (turn.session.fromClient batch).batch.skipQueue = false :=
      Bridge.process_skipQueue.trans (Connection.decode_skipQueue decoded)
    have all : ∀ action ∈ (turn.session.fromClient batch).actions,
        action = .dimensionChanged ∨ ∃ message, action = .kicked message :=
      fun action mem => .inl (asked action mem)
    have still : (turn.tookFromClient frame batch).session.IsFree :=
      isFree.congr rfl rfl rfl rfl rfl same
    rw [crossed]
    refine (leads_onClient decoded).mpr (accounts_passOn ?_ ?_ all)
    · split
      next goes =>
        exact (passes_toBackend took.passes.tidy still.free queued).from took
      next stops =>
        have empty : (turn.session.fromClient batch).batch.packets = [] := by
          have lock : (turn.session.fromClient batch).player.isLocked = false := still.free
          simpa [lock] using stops
        rw [empty, Session.ifServed_nil]
        exact took.accounted
    · split
      · exact leads_toBackend_keeps Session.IsFree still fun backend on peer =>
          still.congr rfl rfl (by simp [on]) rfl rfl rfl
      · exact still

/-- A frame of a client that is on its way out goes nowhere, as long as the client does not say
that it has left. -/
theorem quiet_onClient_of_silent (tidy : turn.session.Tidy)
    (locked : turn.session.player.isLocked = true)
    (silent : turn.session.askedByClient frame = []) : (onClient frame).Quiet turn := by
  cases decoded : (turn.session.client.connection.decode frame).1 with
  | error fault => exact quiet_onClient_of_error tidy decoded
  | ok batch =>
    have took := @tookFromClient_proceeds turn frame batch tidy
    have same : (turn.session.fromClient batch).player.transfer = turn.session.player.transfer :=
      process_client.1
    have lock : (turn.session.fromClient batch).player.isLocked = true := by
      unfold Player.isLocked
      rw [same]
      exact locked
    have idle : (turn.session.fromClient batch).actions = [] := by
      simpa [Session.askedByClient, decoded] using silent
    refine (leads_onClient decoded).mpr ?_
    simp only [lock, idle, Bool.not_true, Bool.and_false, Bool.false_eq_true, if_false, leads_pure]
    exact took

/-- A frame in which a client says that it has left the old backend: the client is sent on, and
then hears all that has waited for it. -/
theorem handsOver_onClient {transfer : Transfer} {pending : PendingBackend}
    (tidy : turn.session.Tidy) (going : turn.session.exit = none)
    (underway : turn.session.Underway) (met : turn.session.pending = some pending)
    (moving : turn.session.player.transfer = some transfer)
    (locked : transfer.phase = .departing) (left : turn.session.askedByClient frame ≠ []) :
    (onClient frame).Leads turn
      (fun _ after => turn.HandsOver
          ((turn.session.playerAfterClient frame).arrivalPackets transfer)
          transfer.waiting.packets after ∧ after.session.StaysAt pending.peer.link)
      fun _ after => turn.HandsOver
        ((turn.session.playerAfterClient frame).arrivalPackets transfer)
        transfer.waiting.packets after := by
  cases decoded : (turn.session.client.connection.decode frame).1 with
  | error fault => simp [Session.askedByClient, decoded] at left
  | ok batch =>
    have took := @tookFromClient_proceeds turn frame batch tidy
    obtain ⟨same, asked⟩ := @process_client .serverbound turn.session.client.connection.version
      turn.session.player batch
    have onward : (turn.tookFromClient frame batch).session.player.transfer = some transfer :=
      same.trans moving
    have lock : (turn.session.fromClient batch).player.isLocked = true := by
      simp [Player.isLocked, Session.fromClient, same, moving, Transfer.isLocked, locked]
    have acted : (turn.session.fromClient batch).actions ≠ [] := by
      simpa [Session.askedByClient, decoded] using left
    have player : turn.session.playerAfterClient frame =
        (turn.tookFromClient frame batch).session.player := by
      simp [Session.playerAfterClient, decoded, SessionTurn.tookFromClient]
    have bearing : (turn.tookFromClient frame batch).session.Underway :=
      underway.congr rfl rfl rfl rfl rfl (congrArg _ same)
    have silent : ∃ more, (turn.tookFromClient frame batch).outputs = turn.outputs ++ more ∧
        heardOn LinkId.isClient more = [] :=
      ⟨_, List.append_assoc _ _ _, by
        rw [heardOn_append, Peer.decodingCounted_silent, heardOn_counted, List.append_nil]⟩
    have handed := handsOver_actAll took.passes.tidy going bearing met onward locked acted asked
    rw [player]
    refine (leads_onClient decoded).mpr ?_
    simp only [lock, Bool.not_true, Bool.and_false, Bool.false_eq_true, if_false, leads_pure]
    exact handed.mono (fun _ after next => ⟨took.passes.handsOver silent rfl next.1, next.2⟩)
      fun _ after next => took.passes.handsOver silent rfl next

/-! ## Frames from backends -/

/-- To open a frame of the backend passes nothing on. -/
theorem opened_proceeds {backend : Backend} (tidy : turn.session.Tidy)
    (on : turn.session.backend = some backend) :
    turn.Proceeds ⟨{ turn.session with
        backend := some { backend with peer := backend.peer.decoding frame } },
      turn.outputs ++ backend.peer.decodingCounted frame⟩ := by
  refine .silent ⟨tidy.client, ?_, ?_, tidy.pending⟩ rfl (.spoken on rfl rfl id) rfl
    fun _ => Peer.decodingCounted_silent
  · rintro _ ⟨⟩
    exact (tidy.backend backend on).of_same rfl rfl
  · rintro _ ⟨⟩ free
    exact tidy.active backend on free

/-- A frame from the backend goes nowhere while the client is locked. -/
theorem quiet_onBackend_of_locked (tidy : turn.session.Tidy)
    (locked : turn.session.player.isLocked = true) : (onBackend frame).Quiet turn := by
  cases on : turn.session.backend with
  | none => exact (leads_onBackend_of_none on).mpr (.refl tidy)
  | some backend =>
    cases decoded : (backend.peer.connection.decode frame).1 with
    | error fault => exact (leads_onBackend_of_error on decoded).mpr (opened_proceeds tidy on)
    | ok batch => exact (leads_onBackend_of_locked on locked decoded).mpr (opened_proceeds tidy on)

/-- Opening a frame of the backend and looking at it leaves a free session free. -/
theorem tookFromBackend_isFree {backend : Backend} {batch : Batch}
    (on : turn.session.backend = some backend) (isFree : turn.session.IsFree) :
    (turn.tookFromBackend backend frame batch).session.IsFree := by
  have same := (@process_backend .clientbound backend.peer.connection.version
    turn.session.player batch backend.server).1
  exact isFree.congr rfl rfl (by simp [SessionTurn.tookFromBackend, on]) rfl rfl same

/-- Opening a frame of the backend and looking at it passes nothing on. -/
theorem tookFromBackend_proceeds {backend : Backend} {batch : Batch}
    (tidy : turn.session.Tidy) (on : turn.session.backend = some backend)
    (isFree : turn.session.IsFree) :
    turn.Proceeds (turn.tookFromBackend backend frame batch) := by
  have still := @tookFromBackend_isFree turn frame backend batch on isFree
  refine .silent ⟨tidy.client, ?_, ?_, tidy.pending⟩ rfl (.spoken on rfl rfl fun _ => still.free)
    (List.append_assoc _ _ _) fun link => ?_
  · rintro _ ⟨⟩
    exact (tidy.backend backend on).of_same rfl rfl
  · rintro _ ⟨⟩ -
    exact tidy.active backend on isFree.free
  · rw [heardOn_append, Peer.decodingCounted_silent, heardOn_counted, List.append_nil]

/-- A frame from the backend goes on to a free client, if that is open. -/
theorem accounts_onBackend_of_free (tidy : turn.session.Tidy) (isFree : turn.session.IsFree) :
    (onBackend frame).AccountsFree turn
      (turn.session.ifOpen (turn.session.crossedFromBackend frame)) [] := by
  cases on : turn.session.backend with
  | none =>
    have nothing : turn.session.crossedFromBackend frame = [] := by
      simp [Session.crossedFromBackend, on]
    rw [nothing, Session.ifOpen_nil]
    exact (leads_onBackend_of_none on).mpr ⟨(SessionTurn.Proceeds.refl tidy).accounted, isFree.free⟩
  | some backend =>
    cases decoded : (backend.peer.connection.decode frame).1 with
    | error fault =>
      have nothing : turn.session.crossedFromBackend frame = [] := by
        simp [Session.crossedFromBackend, on, decoded]
      rw [nothing, Session.ifOpen_nil]
      exact (leads_onBackend_of_error on decoded).mpr (opened_proceeds tidy on).accounted
    | ok batch =>
      have took := @tookFromBackend_proceeds turn frame backend batch tidy on isFree
      have still := @tookFromBackend_isFree turn frame backend batch on isFree
      have asked := (@process_backend .clientbound backend.peer.connection.version
        turn.session.player batch backend.server).2
      have crossed : turn.session.crossedFromBackend frame =
          (turn.session.fromBackend backend batch).batch.packets := by
        simp [Session.crossedFromBackend, on, decoded]
      have queued : (turn.session.fromBackend backend batch).batch.skipQueue = false :=
        Bridge.process_skipQueue.trans (Connection.decode_skipQueue decoded)
      rw [crossed]
      refine (leads_onBackend on isFree.free decoded).mpr
        (accounts_passOn ?_ ?_ fun action mem => .inr (asked action mem))
      · split
        next goes => exact (passes_toClient took.passes.tidy queued).from took
        next stops =>
          have empty : (turn.session.fromBackend backend batch).batch.packets = [] := by
            simpa using stops
          rw [empty, Session.ifOpen_nil]
          exact took.accounted
      · split
        · exact leads_toClient_keeps Session.IsFree fun client =>
            still.congr rfl rfl rfl rfl rfl rfl
        · exact still

/-! ## A new backend -/

/-- What a new backend sends does not free the client. -/
theorem tookFromPending_free {pending : PendingBackend} {batch : Batch}
    (course : turn.session.Course) (met : turn.session.pending = some pending)
    (free : (turn.tookFromPending pending frame batch).session.player.isLocked = false) :
    turn.session.player.isLocked = false := by
  cases locked : turn.session.player.isLocked with
  | false => rfl
  | true =>
    obtain ⟨there, -, met', started, -⟩ := course.of_locked locked
    cases met.symm.trans met'
    have spawned := (fromPending_progress turn.session pending batch).started started
    have onward : (turn.tookFromPending pending frame batch).session.Course :=
      course_of_pending course met
    rcases onward.of_pending rfl with
      ⟨login, -⟩ | ⟨transfer, -, moving, away, -⟩
    · exact absurd spawned (by simpa using login)
    · simp [Player.isLocked, Transfer.isLocked, moving, away] at free

/-- Opening a frame of a new backend and looking at it passes nothing on. -/
theorem tookFromPending_passes {pending : PendingBackend} {batch : Batch}
    (tidy : turn.session.Tidy) (course : turn.session.Course)
    (met : turn.session.pending = some pending) :
    turn.Passes [] [] (turn.tookFromPending pending frame batch) := by
  obtain ⟨faces, active⟩ := tidy.pending pending met
  refine .silent ⟨tidy.client, tidy.backend, ?_, ?_⟩ rfl (List.append_assoc _ _ _) fun on => ?_
  · intro backend there free
    exact tidy.active backend there (tookFromPending_free course met free)
  · rintro _ ⟨⟩
    exact ⟨faces.of_same rfl rfl, active⟩
  · rw [heardOn_append, Peer.decodingCounted_silent, heardOn_counted, List.append_nil]

/-- Nothing that a new backend sends is passed on at once. -/
theorem accounts_onPending (tidy : turn.session.Tidy) (going : turn.session.exit = none)
    (course : turn.session.Course) : (onPending frame).Accounts turn [] [] := by
  cases met : turn.session.pending with
  | none =>
    exact (leads_onPending_of_none met).mpr (SessionTurn.Proceeds.refl tidy).accounted
  | some pending =>
    cases decoded : (pending.peer.connection.decode frame).1 with
    | error fault =>
      have opened : turn.Proceeds ⟨{ turn.session with
          pending := some { pending with peer := pending.peer.decoding frame } },
          turn.outputs ++ pending.peer.decodingCounted frame⟩ := by
        exact .silent (tidy.withPending met rfl rfl) rfl ⟨id, fun _ => id⟩ rfl
          fun _ => Peer.decodingCounted_silent
      exact ((leads_onPending_of_error met decoded).mpr
        ((quiet_failTransfer opened.passes.tidy).from opened)).mono
          (fun _ _ here => here.accounted) fun _ _ here => here.accounted
    | ok batch =>
      have took := @tookFromPending_passes turn frame pending batch tidy course met
      have locked : ∀ transfer,
          (turn.tookFromPending pending frame batch).session.player.transfer = some transfer →
          transfer.isLocked = true := by
        intro transfer moving
        rcases (course_of_pending course met).of_pending rfl with ⟨-, free⟩ | ⟨_, -, there, away, -⟩
        · cases free.symm.trans moving
        · cases there.symm.trans moving
          simp [Transfer.isLocked, away]
      have own : ∀ action ∈ turn.session.askedByPending pending batch,
          action.isOfArrival = true := fun _ mem => askedByPending_own mem
      have quiet := quiet_actAll_pending took.tidy going locked own
      refine (leads_onPending met decoded).mpr (quiet.mono ?_ ?_)
      · intro _ _ next
        exact ⟨took.trans next.passes, fun _ => next.keeps.home⟩
      · intro _ _ next
        exact ⟨took.trans next.passes, fun _ => next.keeps.home⟩

/-! ## Other events -/

/-- A server that answers the call passes nothing on. -/
theorem quiet_onConnected {attempt : Nat} {result : Except String (Nat × Connection)}
    (tidy : turn.session.Tidy) : (onConnected attempt result).Quiet turn := by
  have missed : turn.Proceeds ⟨{ turn.session with connecting := none }, turn.outputs⟩ :=
    .silent ⟨tidy.client, tidy.backend, tidy.active, tidy.pending⟩ rfl
      ⟨id, fun _ => id⟩ (List.append_nil _).symm fun _ => rfl
  refine leads_onConnected (.refl tidy)
    (fun _ _ => missed.trans (abandoned_proceeds missed.passes.tidy)) fun _ _ _ _ _ => ?_
  exact .silent tidy.connect rfl ⟨id, fun _ => id⟩ (List.append_nil _).symm fun _ => rfl

/-- A call to another server passes nothing on. -/
theorem quiet_onTransfer {server : Server} (tidy : turn.session.Tidy) :
    (onTransfer server).Quiet turn := by
  simp only [Quiet, onTransfer, leads_bind, leads_session]
  split
  · exact quiet_connectTo tidy
  · exact .refl tidy

/-- To flush the client's queue passes nothing on. -/
theorem quiet_flush (tidy : turn.session.Tidy) : (toClient Peer.flush).Quiet turn := by
  have faces := tidy.client
  have away : turn.session.client.link.isBackend = false := by
    simp [LinkId.isBackend, faces.isClient]
  have alive : turn.session.client.flush.2.1.isOpen = turn.session.client.isOpen := by
    unfold Peer.isOpen
    rw [Peer.flush_severed, Peer.flush_queue]
    split <;> rfl
  have proceeds : turn.Proceeds
      ⟨{ turn.session with client := turn.session.client.flush.2.1 },
        turn.outputs ++ turn.session.client.flush.2.2⟩ := by
    refine ⟨⟨⟨faces.flush, tidy.backend, tidy.active, tidy.pending⟩, alive.symm.trans,
      turn.session.client.flush.2.2, rfl, ?_, ?_⟩, id, fun _ => id⟩
    · rw [Peer.heardOn_flush, amid_nil]
      split
      · exact faces.made
      · exact allMade_nil
    · rw [Peer.heardOn_flush, away]
      exact .nil
  rw [Quiet, leads_toClient, leads_check]
  cases turn.session.client.flush.1 with
  | error fault => exact proceeds
  | ok done => exact proceeds

/-- What a frame from the client passes on. -/
theorem accounts_onClient (tidy : turn.session.Tidy) (going : turn.session.exit = none)
    (underway : turn.session.Underway) : (onClient frame).Accounts turn
      (turn.session.ifOpen (turn.session.inward (.client (some frame))))
      (turn.session.ifServed (turn.session.outward (.client (some frame)))) := by
  cases locked : turn.session.player.isLocked with
  | false =>
    have inward : turn.session.inward (.client (some frame)) = [] := by
      cases moving : turn.session.player.transfer with
      | none => simp [Session.inward, Session.released, moving]
      | some transfer =>
        have left : transfer.isLocked = false := by simpa [Player.isLocked, moving] using locked
        simp [Session.inward, Session.released, moving, left]
    have outward : turn.session.outward (.client (some frame)) =
        turn.session.crossedFromClient frame := by simp [Session.outward, locked]
    rw [inward, outward, Session.ifOpen_nil]
    exact (accounts_onClient_of_free tidy ⟨going, underway, locked⟩).accounts
  | true =>
    obtain ⟨pending, transfer, met, -, moving, away⟩ := (underway.2 going).of_locked locked
    have outward : turn.session.outward (.client (some frame)) = [] := by
      simp [Session.outward, locked]
    have bound : transfer.isLocked = true := by simp [Transfer.isLocked, away]
    rw [outward, Session.ifServed_nil]
    cases asked : turn.session.askedByClient frame with
    | nil =>
      have inward : turn.session.inward (.client (some frame)) = [] := by
        simp [Session.inward, Session.released, moving, asked]
      rw [inward, Session.ifOpen_nil]
      exact (quiet_onClient_of_silent tidy locked asked).accounts
    | cons action rest =>
      have left : turn.session.askedByClient frame ≠ [] := by simp [asked]
      have inward : turn.session.inward (.client (some frame)) = transfer.waiting.packets := by
        simp [Session.inward, Session.released, moving, bound, asked]
      rw [inward]
      exact (handsOver_onClient tidy going underway met moving away left).mono
        (fun _ after here => ⟨here.1.passes, by simp [locked]⟩)
        fun _ after here => ⟨here.passes, by simp [locked]⟩

/-- What each event passes on. -/
theorem accounts_onEvent {event : Event} (tidy : turn.session.Tidy)
    (going : turn.session.exit = none) (underway : turn.session.Underway) :
    (onEvent event).Accounts turn (turn.session.ifOpen (turn.session.inward event))
      (turn.session.ifServed (turn.session.outward event)) := by
  have quietly {work : Work Unit} (quiet : work.Quiet turn)
      (inward : turn.session.inward event = []) (outward : turn.session.outward event = []) :
      work.Accounts turn (turn.session.ifOpen (turn.session.inward event))
        (turn.session.ifServed (turn.session.outward event)) := by
    rw [inward, outward, Session.ifOpen_nil, Session.ifServed_nil]
    exact quiet.accounts
  have leaving (exit : Exit) : turn.Proceeds
      { turn with session := { turn.session with exit := some exit } } :=
    .silent ⟨tidy.client, tidy.backend, tidy.active, tidy.pending⟩ rfl
      ⟨id, fun _ => id⟩ (List.append_nil _).symm fun _ => rfl
  cases event with
  | client frame =>
    cases frame with
    | some frame => exact accounts_onClient tidy going underway
    | none => exact quietly (leaving .clientGone) rfl rfl
  | backend frame =>
    cases frame with
    | some frame =>
      cases locked : turn.session.player.isLocked with
      | true =>
        exact quietly (quiet_onBackend_of_locked tidy locked)
          (by simp [Session.inward, locked]) rfl
      | false =>
        have inward : turn.session.inward (.backend (some frame)) =
            turn.session.crossedFromBackend frame := by simp [Session.inward, locked]
        have outward : turn.session.outward (.backend (some frame)) = [] := rfl
        rw [inward, outward, Session.ifServed_nil]
        exact (accounts_onBackend_of_free tidy ⟨going, underway, locked⟩).accounts
    | none => exact quietly (quiet_loseBackend tidy (underway.2 going)) rfl rfl
  | pending frame =>
    cases frame with
    | some frame =>
      have inward : turn.session.inward (.pending (some frame)) = [] := rfl
      have outward : turn.session.outward (.pending (some frame)) = [] := rfl
      rw [inward, outward, Session.ifOpen_nil, Session.ifServed_nil]
      exact accounts_onPending tidy going (underway.2 going)
    | none => exact quietly (quiet_failTransfer tidy) rfl rfl
  | connected attempt result => exact quietly (quiet_onConnected tidy) rfl rfl
  | tick =>
    refine quietly (leads_bind.mpr ((quiet_flush tidy).mono ?_ fun _ _ here => here)) rfl rfl
    intro _ after flushed
    exact (quiet_toBackend flushed.passes.tidy fun backend on =>
      (flushed.passes.tidy.backend backend on).saysOwn_flush).from flushed
  | transfer server => exact quietly (quiet_onTransfer tidy) rfl rfl
  | disconnect reason => exact quietly (leaving (.farewell reason)) rfl rfl
  | severed link => exact quietly (.refl tidy) rfl rfl

end Work

/-! ## Moves -/

/-- A session that is closed down tells the client so, and passes nothing on. -/
theorem SessionTurn.closedDown_passes {turn : SessionTurn} {exit : Exit}
    (tidy : turn.session.Tidy) : turn.Passes [] [] (turn.closedDown exit) := by
  have silent (on : LinkId → Bool) : AllMade (heardOn on (turn.session.pendingClosing ++
      turn.session.backendClosing ++ (turn.session.client.close exit.last).2)) := by
    rw [heardOn_append, heardOn_append, Work.pendingClosing_quiet tidy,
      Work.backendClosing_quiet tidy, Peer.heardOn_close, tidy.client.unheld]
    split
    · simpa using tidy.client.made
    · exact allMade_nil
  have alive : (turn.session.client.close exit.last).1.isOpen = turn.session.client.isOpen := by
    unfold Peer.isOpen
    rw [Peer.close_severed, Peer.close_queue]
  refine ⟨⟨tidy.client.close, by simp [closedDown], by simp [closedDown], by simp [closedDown]⟩,
    alive.symm.trans, _, ?_, amid_nil.mpr (silent _), amid_nil.mpr (silent _)⟩
  simp [closedDown]

namespace Session

variable {session : Session}

/-- Every session that there can be. -/
structure Sound (session : Session) : Prop where
  coherent : session.Coherent
  tidy : session.Tidy

/-- The packets that a move brings from a backend to the client. -/
def passedIn (session : Session) : Move → List BatchPacket
  | .event event =>
    match session.stage with
    | .playing => session.ifOpen (session.inward event)
    | _ => []
  | .push _ => []

/-- The packets that a move brings from the client to a backend. -/
def passedOut (session : Session) : Move → List BatchPacket
  | .event event =>
    match session.stage with
    | .playing => session.ifServed (session.outward event)
    | _ => []
  | .push _ => []

/-- A session starts tidy. -/
theorem start_tidy (login : LoginData) (services : SessionServices) (client : Connection)
    (initial : Server) : (start login services client initial).1.Tidy :=
  ⟨⟨rfl, rfl, rfl, allMade_nil⟩, by simp [start], by simp [start], by simp [start]⟩

/-- Marking a link passes nothing on. -/
theorem sever_passes (link : LinkId) (tidy : session.Tidy) :
    SessionTurn.Passes ⟨session, []⟩ [] [] ⟨session.sever link, []⟩ := by
  refine ⟨⟨?_, ?_, ?_, ?_⟩, ?_, [], rfl, .nil, .nil⟩
  · simp only [sever]
    split
    · exact tidy.client.of_same rfl rfl
    · exact tidy.client
  · intro backend on
    obtain ⟨there, was, rfl⟩ := Option.map_eq_some_iff.mp on
    dsimp only
    split
    · exact (tidy.backend there was).of_same rfl rfl
    · exact tidy.backend there was
  · intro backend on free
    obtain ⟨there, was, rfl⟩ := Option.map_eq_some_iff.mp on
    dsimp only
    split
    · exact tidy.active there was free
    · exact tidy.active there was free
  · intro pending met
    obtain ⟨there, was, rfl⟩ := Option.map_eq_some_iff.mp met
    obtain ⟨faces, active⟩ := tidy.pending there was
    dsimp only
    split
    · exact ⟨faces.of_same rfl rfl, active⟩
    · exact ⟨faces, active⟩
  · simp only [sever]
    split
    · simp [Peer.isOpen]
    · exact id

/-- A packet that is queued is passed on by nobody. -/
theorem push_passes (packet : Packet) (tidy : session.Tidy) :
    SessionTurn.Passes ⟨session, []⟩ [] []
      ⟨(session.push packet).2.1, (session.push packet).2.2⟩ := by
  refine ⟨⟨tidy.client.pushing, tidy.backend, tidy.active, tidy.pending⟩,
    Peer.isOpen_of_pushing, (session.push packet).2.2, rfl, ?_, ?_⟩
  · simp only [push, heardOn_counted]
    exact .nil
  · simp only [push, heardOn_counted]
    exact .nil

/-- The first backend is there, or the session is closed down. -/
theorem join_passes {server : Server} {result : Except String (Nat × Connection)}
    (tidy : session.Tidy) :
    SessionTurn.Passes ⟨session, []⟩ [] [] (session.join server result) := by
  cases result with
  | ok there =>
    refine ⟨⟨tidy.client, ?_, ?_, tidy.pending⟩, id, [], rfl, .nil, .nil⟩
    · rintro _ ⟨⟩
      exact ⟨⟨_, rfl⟩, rfl, rfl, rfl⟩
    · rintro _ ⟨⟩ -
      rfl
  | error message =>
    simp only [join, after_shutdown]
    exact SessionTurn.closedDown_passes tidy

/-- What an event passes on in a playing session. -/
theorem handle_accounted {event : Event} (tidy : session.Tidy) (playing : session.stage = .playing)
    (going : session.exit = none) (course : session.Course)
    (here : ∀ link, event ≠ .severed link) :
    SessionTurn.Accounted ⟨session, []⟩ (session.ifOpen (session.inward event))
      (session.ifServed (session.outward event))
      ⟨(session.handle event).1, (session.handle event).2⟩ := by
  have accounts : (Work.onEvent event).Accounts ⟨session, []⟩
      (session.ifOpen (session.inward event)) (session.ifServed (session.outward event)) :=
    Work.accounts_onEvent tidy going ⟨playing, fun _ => course⟩
  have closing {after : SessionTurn} (exit : Exit)
      (accounted : SessionTurn.Accounted ⟨session, []⟩ (session.ifOpen (session.inward event))
        (session.ifServed (session.outward event)) after) :
      SessionTurn.Accounted ⟨session, []⟩ (session.ifOpen (session.inward event))
        (session.ifServed (session.outward event)) (after.closedDown exit) :=
    accounted.andThen
      ⟨SessionTurn.closedDown_passes accounted.passes.tidy, .adrift rfl fun _ => rfl⟩
  refine handle_of_leads (fun turn => SessionTurn.Accounted ⟨session, []⟩ _ _ turn) playing here ?_
  exact accounts.mono
    (fun _ _ accounted => ⟨fun _ => accounted, fun exit _ => closing exit accounted⟩)
    fun _ _ accounted => closing _ accounted

/-- An event passes on what it brings, and nothing else. -/
theorem handle_passes {event : Event} (tidy : session.Tidy) (coherent : session.Coherent) :
    SessionTurn.Passes ⟨session, []⟩ (session.passedIn (.event event))
      (session.passedOut (.event event))
      ⟨(session.handle event).1, (session.handle event).2⟩ := by
  cases coherent.handling event with
  | severed link =>
    have inward : session.passedIn (.event (.severed link)) = [] := by
      cases stage : session.stage <;> simp [passedIn, stage, Session.inward]
    have outward : session.passedOut (.event (.severed link)) = [] := by
      cases stage : session.stage <;> simp [passedOut, stage, Session.outward]
    rw [inward, outward]
    simpa [handle] using sever_passes link tidy
  | idle unplayed _ same =>
    have inward : session.passedIn (.event event) = [] := by
      cases stage : session.stage <;> simp_all [passedIn]
    have outward : session.passedOut (.event event) = [] := by
      cases stage : session.stage <;> simp_all [passedOut]
    rw [inward, outward, same]
    exact .refl tidy
  | @joins server result joining _ same =>
    have inward : session.passedIn (.event (.connected 0 result)) = [] := by
      simp [passedIn, joining]
    have outward : session.passedOut (.event (.connected 0 result)) = [] := by
      simp [passedOut, joining]
    rw [inward, outward, same]
    exact join_passes tidy
  | plays here playing going course =>
    have inward : session.passedIn (.event event) = session.ifOpen (session.inward event) := by
      simp [passedIn, playing]
    have outward : session.passedOut (.event event) =
        session.ifServed (session.outward event) := by simp [passedOut, playing]
    rw [inward, outward]
    exact (handle_accounted tidy playing going course here).passes

/-- What a move passes on. -/
theorem move_passes (move : Move) (sound : session.Sound) :
    SessionTurn.Passes ⟨session, []⟩ (session.passedIn move) (session.passedOut move)
      ⟨(session.move move).1, (session.move move).2⟩ := by
  cases move with
  | event event => exact handle_passes sound.tidy sound.coherent
  | push packet => exact push_passes packet sound.tidy

/-- A move leads to a session that there can be. -/
theorem move_sound (session : Session) (move : Move) (sound : session.Sound) :
    (session.move move).1.Sound :=
  ⟨move_coherent session move sound.coherent, (move_passes move sound).tidy⟩

/-- Whatever has happened to a session, it is sound. -/
theorem play_sound (login : LoginData) (services : SessionServices) (client : Connection)
    (initial : Server) (moves : List Move) :
    ((start login services client initial).1.play moves).1.Sound :=
  play_keeps Sound move_sound moves
    ⟨start_coherent login services client initial, start_tidy login services client initial⟩

end Session

end Ferry
