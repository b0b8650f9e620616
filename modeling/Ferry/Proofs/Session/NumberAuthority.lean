import Ferry.Proofs.Bridge.Adoption
import Ferry.Proofs.Session.EventLessons

/-!
# Whose numbers are in force

The backend whose numbers are to hold is the one that the client hears, and as soon as the client is
on its way out, the one that it is moving to. Whatever is done to a session, the mapping is what has
come of the adoptions so far, and the last one was of that backend, if there is still one. So each
packet between the client and a backend is put into the numbers of that backend, and of no other
one.
-/

namespace Ferry

/-- The backend, on its link. -/
def Backend.endpoint (backend : Backend) : Endpoint := ⟨backend.peer.link, backend.server⟩

/-- The backend that the player is moving to, on its link. -/
def PendingBackend.endpoint (pending : PendingBackend) : Endpoint :=
  ⟨pending.peer.link, pending.arrival.target⟩

namespace Session

/-- The backend whose numbers are to hold. -/
def authority (session : Session) : Option Endpoint :=
  if session.player.isLocked then session.pending.map PendingBackend.endpoint
  else session.backend.map Backend.endpoint

/-- What a move brings: what is adopted from backends, and what is let through between them and the
client. -/
def log (session : Session) : Move → List Entry
  | .event (.client (some frame)) =>
    match session.backend, (session.client.connection.decode frame).1 with
    | some backend, .ok batch =>
      if session.player.isLocked then []
      else Bridge.log Handler.client .serverbound session.client.connection.version
        backend.endpoint (fun _ _ => none) () session.player batch
    | _, _ => []
  | .event (.backend (some frame)) =>
    match session.backend with
    | none => []
    | some backend =>
      match (backend.peer.connection.decode frame).1 with
      | .error _ => []
      | .ok batch =>
        if session.player.isLocked then []
        else Bridge.log (Handler.backend backend.server) .clientbound
          backend.peer.connection.version backend.endpoint (fun _ => Packet.startGame?) ()
          session.player batch
  | .event (.pending (some frame)) =>
    match session.pending with
    | none => []
    | some pending =>
      match (pending.peer.connection.decode frame).1 with
      | .error _ => []
      | .ok batch => Bridge.log Handler.arrival .clientbound pending.peer.connection.version
          pending.endpoint Arrival.spawn? pending.arrival session.player batch
  | _ => []

section Log

variable {session : Session} {frame : Bytes} {batch : Batch}

/-- The log of a frame of the client is that of its crossing. -/
theorem log_of_client {backend : Backend} (on : session.backend = some backend)
    (free : session.player.isLocked = false)
    (decoded : (session.client.connection.decode frame).1 = .ok batch) :
    session.log (.event (.client (some frame))) =
      Bridge.log Handler.client .serverbound session.client.connection.version backend.endpoint
        (fun _ _ => none) () session.player batch := by
  simp [log, on, free, decoded]

/-- The log of a frame of the backend is that of its crossing. -/
theorem log_of_backend {backend : Backend} (on : session.backend = some backend)
    (free : session.player.isLocked = false)
    (decoded : (backend.peer.connection.decode frame).1 = .ok batch) :
    session.log (.event (.backend (some frame))) =
      Bridge.log (Handler.backend backend.endpoint.server) .clientbound
        backend.peer.connection.version backend.endpoint (fun _ => Packet.startGame?) ()
        session.player batch := by
  simp only [log, on, free, decoded]
  rfl

/-- The log of a frame of a new backend is that of its crossing. -/
theorem log_of_pending {pending : PendingBackend} (met : session.pending = some pending)
    (decoded : (pending.peer.connection.decode frame).1 = .ok batch) :
    session.log (.event (.pending (some frame))) =
      Bridge.log Handler.arrival .clientbound pending.peer.connection.version pending.endpoint
        Arrival.spawn? pending.arrival session.player batch := by
  simp [log, met, decoded]

/-- Nothing is adopted from the client. -/
theorem adoptions_of_client : adoptions (session.log (.event (.client (some frame)))) = [] := by
  simp only [log]
  split
  · split
    · rfl
    · exact Bridge.logFrom_unspawned fun _ _ => rfl
  · rfl

/-- A frame of the client is noted as it crosses. -/
theorem client_isLog {backend : Backend} (on : session.backend = some backend)
    (free : session.player.isLocked = false)
    (decoded : (session.client.connection.decode frame).1 = .ok batch) :
    IsLog backend.endpoint .serverbound session.player.mapping
      (session.fromClient batch).batch.packets (session.fromClient batch).player.mapping
      (session.log (.event (.client (some frame)))) := by
  rw [log_of_client on free decoded]
  exact Bridge.process_isLog (Handler.client_adopts backend.endpoint) trivial
    (Connection.decode_received decoded)

/-- A frame of the backend is noted as it crosses. -/
theorem backend_isLog {backend : Backend} (on : session.backend = some backend)
    (free : session.player.isLocked = false)
    (decoded : (backend.peer.connection.decode frame).1 = .ok batch) :
    IsLog backend.endpoint .clientbound session.player.mapping
      (session.fromBackend backend batch).batch.packets
      (session.fromBackend backend batch).player.mapping
      (session.log (.event (.backend (some frame)))) := by
  rw [log_of_backend on free decoded]
  exact Bridge.process_isLog (Handler.backend_adopts backend.endpoint) trivial
    (Connection.decode_received decoded)

/-- A frame of a new backend is noted as it crosses. -/
theorem pending_isLog {pending : PendingBackend} (met : session.pending = some pending)
    (decoded : (pending.peer.connection.decode frame).1 = .ok batch) :
    IsLog pending.endpoint .clientbound session.player.mapping
      (session.fromPending pending batch).batch.packets
      (session.fromPending pending batch).player.mapping
      (session.log (.event (.pending (some frame)))) := by
  rw [log_of_pending met decoded]
  exact Bridge.process_isLog (Handler.arrival_adopts pending.endpoint) rfl
    (Connection.decode_received decoded)

/-- A backend that is still logging the player in is adopted if it spawns the player, and not
otherwise. -/
theorem log_of_login {pending : PendingBackend} {last : Option Adoption}
    (met : session.pending = some pending) (login : pending.arrival.started = false)
    (decoded : (pending.peer.connection.decode frame).1 = .ok batch) :
    AllOwn session.player.mapping last (session.log (.event (.pending (some frame)))) ∧
      (adoptions (session.log (.event (.pending (some frame))))).isEmpty =
        (StartGame.first pending.peer.connection.version batch.packets).isNone := by
  rw [log_of_pending met decoded]
  exact @Bridge.logFrom_login pending.peer.connection.version pending.endpoint batch.packets last
    ⟨pending.arrival, session.player, [], BridgeReport.zero, []⟩ login rfl
    (Connection.decode_received decoded)

end Log

/-- Which moves bring anything that is worth noting. -/
inductive Logged (session : Session) : Move → Prop
  | nothing {move : Move} (empty : session.log move = []) : Logged session move
  | fromClient {backend : Backend} {frame : Bytes} {batch : Batch}
      (on : session.backend = some backend) (free : session.player.isLocked = false)
      (decoded : (session.client.connection.decode frame).1 = .ok batch) :
      Logged session (.event (.client (some frame)))
  | fromBackend {backend : Backend} {frame : Bytes} {batch : Batch}
      (on : session.backend = some backend) (free : session.player.isLocked = false)
      (decoded : (backend.peer.connection.decode frame).1 = .ok batch) :
      Logged session (.event (.backend (some frame)))
  | fromPending {pending : PendingBackend} {frame : Bytes} {batch : Batch}
      (met : session.pending = some pending)
      (decoded : (pending.peer.connection.decode frame).1 = .ok batch) :
      Logged session (.event (.pending (some frame)))

/-- Every move is a frame that brings something, or brings nothing. -/
theorem logged (session : Session) (move : Move) : session.Logged move := by
  cases move with
  | push packet => exact .nothing rfl
  | event event =>
    cases event with
    | client frame =>
      cases frame with
      | none => exact .nothing rfl
      | some frame =>
        cases on : session.backend with
        | none => exact .nothing (by simp [log, on])
        | some backend =>
          cases decoded : (session.client.connection.decode frame).1 with
          | error fault => exact .nothing (by simp [log, on, decoded])
          | ok batch =>
            cases free : session.player.isLocked with
            | true => exact .nothing (by simp [log, on, decoded, free])
            | false => exact .fromClient on free decoded
    | backend frame =>
      cases frame with
      | none => exact .nothing rfl
      | some frame =>
        cases on : session.backend with
        | none => exact .nothing (by simp [log, on])
        | some backend =>
          cases decoded : (backend.peer.connection.decode frame).1 with
          | error fault => exact .nothing (by simp [log, on, decoded])
          | ok batch =>
            cases free : session.player.isLocked with
            | true => exact .nothing (by simp [log, on, decoded, free])
            | false => exact .fromBackend on free decoded
    | pending frame =>
      cases frame with
      | none => exact .nothing rfl
      | some frame =>
        cases met : session.pending with
        | none => exact .nothing (by simp [log, met])
        | some pending =>
          cases decoded : (pending.peer.connection.decode frame).1 with
          | error fault => exact .nothing (by simp [log, met, decoded])
          | ok batch => exact .fromPending met decoded
    | _ => exact .nothing rfl

/-- A session that has come of another one, as a log says: the mapping is what has come of the
adoptions, and the last adoption was of the backend whose numbers are to hold. -/
structure Heeds (session : Session) (log : List Entry) (after : Session) : Prop where
  mapping : after.player.mapping =
    (adoptions log).foldl Mapping.adopting session.player.mapping
  authority : after.authority = none ∨
    after.authority = ((adoptions log).getLast?.map Adoption.backend).or session.authority

variable {session middle after : Session} {log : List Entry}

/-- A session heeds a log also when more happens that is not noted. -/
theorem Heeds.trans (here : session.Heeds log middle) (next : middle.Heeds [] after) :
    session.Heeds log after := by
  refine ⟨next.mapping.trans here.mapping, ?_⟩
  rcases next.authority with gone | same
  · exact .inl gone
  · have same : after.authority = middle.authority := same
    rw [same]
    exact here.authority

/-- A session whose backend is gone heeds that nothing is noted. -/
theorem Heeds.gone (mapping : after.player.mapping = session.player.mapping)
    (gone : after.authority = none) : session.Heeds [] after := ⟨mapping, .inl gone⟩

/-- A session that keeps its mapping and its backend heeds that nothing is noted. -/
theorem Heeds.still (mapping : after.player.mapping = session.player.mapping)
    (same : after.authority = session.authority) : session.Heeds [] after := ⟨mapping, .inr same⟩

/-- Whose numbers are to hold is a matter of which backends there are. -/
theorem authority_congr {other : Session}
    (locked : other.player.isLocked = session.player.isLocked)
    (backend : other.backend.map Backend.endpoint = session.backend.map Backend.endpoint)
    (pending : other.pending.map PendingBackend.endpoint =
      session.pending.map PendingBackend.endpoint) : other.authority = session.authority := by
  rw [authority, authority, locked, backend, pending]

/-- Only the player and the backends matter for what a session heeds. -/
theorem Heeds.congr {other : Session} (player : other.player = session.player)
    (backend : other.backend.map Backend.endpoint = session.backend.map Backend.endpoint)
    (pending : other.pending.map PendingBackend.endpoint =
      session.pending.map PendingBackend.endpoint) : session.Heeds [] other :=
  .still (by rw [player]) (authority_congr (by rw [player]) backend pending)

/-- While the client is free, the numbers of the backend hold. -/
theorem authority_of_free (free : session.player.isLocked = false) :
    session.authority = session.backend.map Backend.endpoint := by simp [authority, free]

/-- While the client is on its way out, the numbers of the new backend hold. -/
theorem authority_of_locked (locked : session.player.isLocked = true) :
    session.authority = session.pending.map PendingBackend.endpoint := by simp [authority, locked]

/-- The numbers that hold for a free client are those of the backend that is there. -/
theorem authority_of_backend {backend : Backend} (on : session.backend = some backend)
    (free : session.player.isLocked = false) : session.authority = some backend.endpoint := by
  rw [authority_of_free free, on]
  rfl

/-- The numbers that hold during a departure are those of the new backend that is there. -/
theorem authority_of_pending {pending : PendingBackend} {transfer : Transfer}
    (met : session.pending = some pending) (moving : session.player.transfer = some transfer)
    (away : transfer.phase = .departing) : session.authority = some pending.endpoint := by
  rw [authority_of_locked (Player.locked_of_departing moving away), met]
  rfl

/-- As long as the client is free, it does not matter which backend the player is moving to. -/
theorem Heeds.of_free {other : Session} (free : session.player.isLocked = false)
    (player : other.player = session.player)
    (backend : other.backend.map Backend.endpoint = session.backend.map Backend.endpoint) :
    session.Heeds [] other := by
  refine .still (by rw [player]) ?_
  rw [authority_of_free free, authority_of_free (by rw [player]; exact free), backend]

/-- A player without a transfer is not locked. -/
theorem isLocked_of_ended {player : Player} (ended : player.transfer = none) :
    player.isLocked = false := by simp [Player.isLocked, ended]

/-- A session that has lost its backend. -/
theorem closed_heeds : session.Heeds [] { session with backend := none } := by
  cases locked : session.player.isLocked with
  | true =>
    refine .still rfl ?_
    rw [authority_of_locked locked]
    exact authority_of_locked locked
  | false => exact .gone rfl (authority_of_free locked)

end Session

namespace SessionTurn

variable {turn : SessionTurn}

/-- Looking for another server leaves the numbers as they are. -/
theorem fallenBack_heeds {lost : Server} {reason : Farewell} {message : String}
    (ended : turn.session.player.transfer = none) :
    turn.session.Heeds [] (turn.fallenBack lost reason message).session := by
  unfold fallenBack
  dsimp only
  split
  · exact .of_free (Session.isLocked_of_ended ended) rfl rfl
  · exact .congr rfl rfl rfl

/-- To give a transfer up leaves the numbers. -/
theorem abandoned_heeds {target : Server} {message : String} :
    turn.session.Heeds [] (turn.abandoned target message).session := by
  have adrift : turn.session.Heeds [] turn.adrift.session := .gone rfl rfl
  exact adrift.trans (fallenBack_heeds rfl)

end SessionTurn

/-- Work that leaves the numbers as they are, whether it is done or fails. -/
abbrev Work.Heedful (work : Work Unit) (turn : SessionTurn) : Prop :=
  work.Leads turn (fun _ after => turn.session.Heeds [] after.session)
    fun _ after => turn.session.Heeds [] after.session

namespace Work

variable {turn : SessionTurn}

/-- Heedful work that goes on from another turn. -/
theorem Heedful.from {work : Work Unit} {log : List Entry} {middle : SessionTurn}
    (heedful : work.Heedful middle) (here : turn.session.Heeds log middle.session) :
    work.Leads middle (fun _ after => turn.session.Heeds log after.session)
      fun _ after => turn.session.Heeds log after.session :=
  heedful.mono (fun _ _ next => here.trans next) fun _ _ next => here.trans next

/-! ## Writing -/

/-- What is done to the client leaves the numbers. -/
theorem heedful_toClient {act : Peer → Except SessionError Unit × Peer × List Output} :
    (toClient act).Heedful turn := by
  rw [Heedful, leads_toClient, leads_check]
  split <;> exact .congr rfl rfl rfl

/-- What is done to the backend leaves the numbers. -/
theorem heedful_toBackend {act : Peer → Except SessionError Unit × Peer × List Output}
    (link : ∀ peer, (act peer).2.1.link = peer.link) : (toBackend act).Heedful turn := by
  cases on : turn.session.backend with
  | none => exact (leads_toBackend_of_none on).mpr (.congr rfl rfl rfl)
  | some backend =>
    rw [Heedful, leads_toBackend on, leads_check]
    split <;> exact .congr rfl (by simp [on, Backend.endpoint, link]) rfl

/-- What is done to the new backend leaves the numbers. -/
theorem heedful_toPending {act : Peer → Except SessionError Unit × Peer × List Output}
    (link : ∀ peer, (act peer).2.1.link = peer.link) : (toPending act).Heedful turn := by
  cases met : turn.session.pending with
  | none => exact (leads_toPending_of_none met).mpr (.congr rfl rfl rfl)
  | some pending =>
    rw [Heedful, leads_toPending met, leads_check]
    split <;> exact .congr rfl rfl (by simp [met, PendingBackend.endpoint, link])

/-- An answer leaves the numbers. -/
theorem heedful_reply {source : BatchSource} {packet : Packet} :
    (reply source packet).Heedful turn := by
  unfold reply
  cases source with
  | client => exact heedful_toClient
  | backend => exact heedful_toBackend fun _ => Peer.sendNow_link
  | pending => exact heedful_toPending fun _ => Peer.sendNow_link

/-! ## Routing -/

/-- A call for a server leaves the numbers. -/
theorem heedful_connectTo {server : Server} {source : Option Server} :
    (connectTo server source).Heedful turn := by
  cases moving : turn.session.player.transfer with
  | some transfer =>
    exact (leads_connectTo_of_moving (by rw [moving]; rfl)).mpr (.congr rfl rfl rfl)
  | none =>
    exact (leads_connectTo moving).mpr (.of_free (Session.isLocked_of_ended moving) rfl rfl)

/-- A transfer that fails leaves the numbers. -/
theorem heedful_failTransfer {message : String} : (failTransfer message).Heedful turn := by
  rw [Heedful, leads_failTransfer]
  cases destination turn.session with
  | none => exact .congr rfl rfl rfl
  | some target => exact SessionTurn.abandoned_heeds

/-- A backend that is lost leaves the numbers. -/
theorem heedful_loseBackend {message : Option String} (course : turn.session.Course) :
    (loseBackend message).Heedful turn := by
  let alone : SessionTurn :=
    ⟨{ turn.session with backend := none }, turn.outputs ++ turn.session.backendClosing⟩
  have closed : turn.session.Heeds [] alone.session := Session.closed_heeds
  exact leads_loseBackend_of_course course (fun _ => .congr rfl rfl rfl) closed
    (fun free _ _ _ => closed.trans (@SessionTurn.fallenBack_heeds alone _ _ _ free))
    fun _ _ => closed.trans (@SessionTurn.abandoned_heeds alone _ _)

/-- The start of a transfer leaves the numbers. -/
theorem heedful_startTransfer {teardown : List Packet} :
    (startTransfer teardown).Heedful turn := by
  cases moving : turn.session.player.transfer with
  | none => exact (leads_startTransfer_of_none moving).mpr (.congr rfl rfl rfl)
  | some transfer =>
    refine (leads_startTransfer moving).mpr (heedful_toClient.from (.still rfl ?_))
    refine Session.authority_congr rfl ?_ rfl
    simp only [Session.setOff, Option.map_map]
    rfl

/-- The new backend takes the place of the old one in the same moment in which the client hears it
again. -/
theorem heedful_acknowledge (course : turn.session.Course) : acknowledge.Heedful turn := by
  have idle (free : turn.session.player.transfer = none) : acknowledge.Heedful turn := by
    simpa [Heedful, acknowledge, free] using Session.Heeds.congr rfl rfl rfl
  cases course with
  | settled _ _ _ free => exact idle free
  | dialing _ _ free => exact idle free
  | loggingIn _ _ _ free => exact idle free
  | @departing pending transfer met started uncalled moving locked aimed =>
    simp only [Heedful, acknowledge, leads_bind, leads_session, moving, Option.map_some,
      Transfer.acknowledge, locked]
    have promoted : turn.session.Heeds []
        (turn.session.promoted pending { transfer with phase := .arriving }) := by
      have lock : turn.session.player.isLocked = true := by
        simp [Player.isLocked, moving, Transfer.isLocked, locked]
      refine .still rfl ((Session.authority_of_free ?_).trans ?_)
      · simp [Session.promoted, Player.isLocked, Transfer.isLocked]
      · rw [Session.authority_of_locked lock, met]
        rfl
    refine (leads_finishDeparture met).mpr ((heedful_toClient.from promoted).mono ?_ ?_)
    · intro _ after told
      exact heedful_toClient.from told
    · exact fun _ _ kept => kept
  | arriving on alone uncalled moving left there =>
    simp only [Heedful, acknowledge, leads_bind, leads_session, moving, Option.map_some,
      Transfer.acknowledge, left]
    have ended : turn.session.Heeds []
        { turn.session with player := { turn.session.player with transfer := none } } := by
      refine .still rfl (Session.authority_congr ?_ rfl rfl)
      simp [Player.isLocked, moving, Transfer.isLocked, left]
    refine leads_finishArrival.mpr ((heedful_toClient.from ended).mono ?_ fun _ _ kept => kept)
    intro _ after told
    split
    · exact ((heedful_toBackend fun _ => Peer.sendNow_link).from told).mono
        (fun _ _ kept => kept) fun _ _ kept => kept
    · exact told.trans SessionTurn.abandoned_heeds

/-- An action leaves the numbers. -/
theorem heedful_act {source : BatchSource} {action : Action} (course : turn.session.Course) :
    (act source action).Heedful turn := by
  cases action with
  | reply packet => exact heedful_reply
  | dimensionChanged => exact heedful_acknowledge course
  | transferStarted teardown => exact heedful_startTransfer
  | transferFailed message => exact heedful_failTransfer
  | kicked message => exact heedful_loseBackend course

/-- Actions leave the numbers. -/
theorem heedful_actAll {source : BatchSource} {actions : List Action}
    (going : turn.session.exit = none) (underway : turn.session.Underway) :
    (actAll source actions).Heedful turn := by
  have all : (actAll source actions).Leads turn
      (fun _ after => turn.session.Heeds [] after.session ∧ after.session.Underway)
      fun _ after => turn.session.Heeds [] after.session := by
    refine leads_actAll (fun after => turn.session.Heeds [] after.session ∧ after.session.Underway)
      ?_ going ⟨.congr rfl rfl rfl, underway⟩
    rintro action - here goes ⟨heeds, kept⟩
    exact (((heedful_act (kept.2 goes)).from heeds).and
      (staysUnderway_act kept (kept.2 goes))).mono (fun _ _ both => both) fun _ _ both => both.1
  exact all.mono (fun _ _ both => both.1) fun _ _ kept => kept

/-! ## Events -/

variable {frame : Bytes} {batch : Batch}

/-- Nothing that the client sends changes the mapping. -/
theorem fromClient_mapping {session : Session} :
    (session.fromClient batch).player.mapping = session.player.mapping :=
  Bridge.process_keeps (fun _ player _ => player.mapping = session.player.mapping)
    (fun _ player _ value same => (Handler.client_mapping player value).trans same)
    (fun _ _ _ _ same => same) rfl

/-- What a frame from the client leads to, before anything is done. -/
theorem tookFromClient_heeds :
    turn.session.Heeds [] (turn.tookFromClient frame batch).session := by
  have transfer : (turn.session.fromClient batch).player.transfer = turn.session.player.transfer :=
    process_client.1
  exact .still fromClient_mapping (Session.authority_congr
    (by simp [SessionTurn.tookFromClient, Player.isLocked, transfer]) rfl rfl)

/-- What a frame from the backend leads to, before anything is done. -/
theorem tookFromBackend_heeds {backend : Backend} (on : turn.session.backend = some backend)
    (decoded : (backend.peer.connection.decode frame).1 = .ok batch)
    (free : turn.session.player.isLocked = false) :
    turn.session.Heeds (turn.session.log (.event (.backend (some frame))))
      (turn.tookFromBackend backend frame batch).session := by
  have isLog := Session.backend_isLog on free decoded
  have transfer : (turn.session.fromBackend backend batch).player.transfer =
    turn.session.player.transfer := process_backend.1
  have still : (turn.tookFromBackend backend frame batch).session.player.isLocked = false := by
    simpa [SessionTurn.tookFromBackend, Player.isLocked, transfer] using free
  have here := Session.authority_of_backend on free
  refine ⟨isLog.mapping, .inr (.trans ?_ (latest_of_endpoints isLog.adopted (.inr here)).symm)⟩
  rw [Session.authority_of_free still]
  rfl

/-! What a frame from a new backend leads to, before anything is done. If it spawns the player, the
client is on its way out from then on, so that the numbers of the new backend hold. -/

section TookFromPending

variable {pending : PendingBackend}

/-- The mapping once a batch has been looked at is that of its crossing. -/
theorem tookFromPending_mapping :
    (turn.tookFromPending pending frame batch).session.player.mapping =
      (turn.session.fromPending pending batch).player.mapping := by
  simp only [SessionTurn.tookFromPending, Session.keptFromPending]
  split
  · rw [keepWaiting_player]
  · rfl

/-- A client that is sent away is under the numbers of the new backend. -/
theorem tookFromPending_authority {transfer : Transfer}
    (moving : (turn.tookFromPending pending frame batch).session.player.transfer = some transfer)
    (away : transfer.phase = .departing) :
    (turn.tookFromPending pending frame batch).session.authority = some pending.endpoint := by
  have progress := fromPending_progress turn.session pending batch
  rw [Session.authority_of_locked (Player.locked_of_departing moving away)]
  simp [SessionTurn.tookFromPending, PendingBackend.endpoint, progress.target]

/-- The numbers of a backend that has spawned the player before hold already. -/
theorem tookFromPending_authority_of_started (course : turn.session.Course)
    (met : turn.session.pending = some pending) (started : pending.arrival.started = true) :
    turn.session.authority = some pending.endpoint ∧
      (turn.tookFromPending pending frame batch).session.authority = some pending.endpoint := by
  have onward := @course_of_pending turn frame pending batch course met
  have progress := fromPending_progress turn.session pending batch
  constructor
  · rcases course.of_pending met with ⟨login, -⟩ | ⟨transfer, -, moving, away, -⟩
    · cases started.symm.trans login
    · exact Session.authority_of_pending met moving away
  · rcases onward.of_pending rfl with ⟨login, -⟩ | ⟨transfer, -, moving, away, -⟩
    · cases (progress.started started).symm.trans login
    · exact tookFromPending_authority moving away

/-- A backend that does not spawn the player leaves the numbers in force that were. -/
theorem tookFromPending_authority_of_unspawned (course : turn.session.Course)
    (met : turn.session.pending = some pending) (login : pending.arrival.started = false)
    (unspawned : StartGame.first pending.peer.connection.version batch.packets = none) :
    (turn.tookFromPending pending frame batch).session.authority = turn.session.authority := by
  have same := (@Session.keptFromPending_of_login turn.session pending batch login unspawned).1
  have ended : turn.session.player.transfer = none := by
    rcases course.of_pending met with ⟨-, free⟩ | ⟨_, game, -⟩
    · exact free
    · cases login.symm.trans game
  have free := Session.isLocked_of_ended ended
  rw [Session.authority_of_free free]
  exact Session.authority_of_free (by simp [SessionTurn.tookFromPending, same, free])

/-- A session that has looked at a batch of a new backend heeds its log. -/
theorem tookFromPending_heeds (course : turn.session.Course)
    (met : turn.session.pending = some pending)
    (decoded : (pending.peer.connection.decode frame).1 = .ok batch) :
    turn.session.Heeds (turn.session.log (.event (.pending (some frame))))
      (turn.tookFromPending pending frame batch).session := by
  have isLog := Session.pending_isLog met decoded
  refine ⟨tookFromPending_mapping.trans isLog.mapping, .inr ?_⟩
  cases started : pending.arrival.started with
  | true =>
    obtain ⟨here, still⟩ :=
      @tookFromPending_authority_of_started turn frame batch pending course met started
    exact still.trans (latest_of_endpoints isLog.adopted (.inr here)).symm
  | false =>
    obtain ⟨-, empty⟩ := @Session.log_of_login turn.session frame batch pending none met started
      decoded
    cases spawned : StartGame.first pending.peer.connection.version batch.packets with
    | some first =>
      have spawns : turn.session.Spawns frame pending batch :=
        ⟨met, started, decoded, by rw [spawned]; rfl⟩
      obtain ⟨transfer, moves, away⟩ := spawns.departing course
      refine (tookFromPending_authority moves away).trans
        (latest_of_endpoints isLog.adopted (.inl ?_)).symm
      rw [spawned] at empty
      exact List.isEmpty_eq_false_iff.mp empty
    | none =>
      rw [spawned] at empty
      rw [List.isEmpty_iff.mp empty]
      exact tookFromPending_authority_of_unspawned course met started spawned

end TookFromPending

/-- Work that goes on with a session in which a batch was taken in, and was passed on. -/
theorem heeds_actAll {write : Work Unit} {source : BatchSource} {actions : List Action}
    {log : List Entry} {took : SessionTurn} (here : turn.session.Heeds log took.session)
    (heedful : write.Heedful took)
    (kept : write.Leads took
      (fun _ after => after.session.exit = none ∧ after.session.Underway) fun _ _ => True) :
    write.Leads took
      (fun _ after => (actAll source actions).Leads after
        (fun _ last => turn.session.Heeds log last.session)
        fun _ last => turn.session.Heeds log last.session)
      fun _ last => turn.session.Heeds log last.session :=
  ((heedful.from here).and kept).mono
    (fun _ _ both => (heedful_actAll both.2.1 both.2.2).from both.1) fun _ _ both => both.1

/-- A frame of the client leaves the numbers. -/
theorem heeds_onClient (going : turn.session.exit = none) (underway : turn.session.Underway) :
    (onClient frame).Leads turn
      (fun _ after => turn.session.Heeds [] after.session)
      fun _ after => turn.session.Heeds [] after.session := by
  cases decoded : (turn.session.client.connection.decode frame).1 with
  | error fault => exact (leads_onClient_of_error decoded).mpr (.congr rfl rfl rfl)
  | ok batch =>
    have same : (turn.session.fromClient batch).player.transfer = turn.session.player.transfer :=
      process_client.1
    have took : (turn.tookFromClient frame batch).session.Underway :=
      underway.congr rfl rfl rfl rfl rfl (congrArg _ same)
    refine (leads_onClient decoded).mpr (heeds_actAll tookFromClient_heeds ?_ ?_)
    · split
      · exact heedful_toBackend fun _ => Peer.write_link
      · exact .congr rfl rfl rfl
    · split
      · exact leads_toBackend_keeps (fun session => session.exit = none ∧ session.Underway)
          ⟨going, took⟩ fun backend on peer =>
            ⟨going, took.congr rfl rfl (by simp [on]) rfl rfl rfl⟩
      · exact ⟨going, took⟩

/-- A session heeds the log of a frame of the backend. -/
theorem heeds_onBackend (going : turn.session.exit = none) (underway : turn.session.Underway) :
    (onBackend frame).Leads turn
      (fun _ after => turn.session.Heeds (turn.session.log (.event (.backend (some frame))))
        after.session)
      fun _ after => turn.session.Heeds (turn.session.log (.event (.backend (some frame))))
        after.session := by
  cases on : turn.session.backend with
  | none =>
    have nothing : turn.session.log (.event (.backend (some frame))) = [] := by
      simp [Session.log, on]
    rw [nothing]
    exact (leads_onBackend_of_none on).mpr (.congr rfl rfl rfl)
  | some backend =>
    have opened : turn.session.Heeds [] { turn.session with
        backend := some { backend with peer := backend.peer.decoding frame } } :=
      .congr rfl (by rw [on]; rfl) rfl
    cases decoded : (backend.peer.connection.decode frame).1 with
    | error fault =>
      have nothing : turn.session.log (.event (.backend (some frame))) = [] := by
        simp [Session.log, on, decoded]
      rw [nothing]
      exact (leads_onBackend_of_error on decoded).mpr opened
    | ok batch =>
      cases locked : turn.session.player.isLocked with
      | true =>
        have nothing : turn.session.log (.event (.backend (some frame))) = [] := by
          simp [Session.log, on, decoded, locked]
        rw [nothing]
        exact (leads_onBackend_of_locked on locked decoded).mpr opened
      | false =>
        have same : (turn.session.fromBackend backend batch).player.transfer =
          turn.session.player.transfer := process_backend.1
        have took : (turn.tookFromBackend backend frame batch).session.Underway :=
          underway.congr rfl rfl (by simp [SessionTurn.tookFromBackend, on]) rfl rfl
            (congrArg _ same)
        refine (leads_onBackend on locked decoded).mpr
          (heeds_actAll (tookFromBackend_heeds on decoded locked) ?_ ?_)
        · split
          · exact heedful_toClient
          · exact .congr rfl rfl rfl
        · split
          · exact leads_toClient_keeps (fun session => session.exit = none ∧ session.Underway)
              fun client => ⟨going, took.congr rfl rfl rfl rfl rfl rfl⟩
          · exact ⟨going, took⟩

/-- A session heeds the log of a frame of a new backend. -/
theorem heeds_onPending (going : turn.session.exit = none) (underway : turn.session.Underway) :
    (onPending frame).Leads turn
      (fun _ after => turn.session.Heeds (turn.session.log (.event (.pending (some frame))))
        after.session)
      fun _ after => turn.session.Heeds (turn.session.log (.event (.pending (some frame))))
        after.session := by
  cases met : turn.session.pending with
  | none =>
    have nothing : turn.session.log (.event (.pending (some frame))) = [] := by
      simp [Session.log, met]
    rw [nothing]
    exact (leads_onPending_of_none met).mpr (.congr rfl rfl rfl)
  | some pending =>
    cases decoded : (pending.peer.connection.decode frame).1 with
    | error fault =>
      have nothing : turn.session.log (.event (.pending (some frame))) = [] := by
        simp [Session.log, met, decoded]
      rw [nothing]
      exact (leads_onPending_of_error met decoded).mpr
        (heedful_failTransfer.from (.congr rfl rfl (by rw [met]; rfl)))
    | ok batch =>
      have course := underway.2 going
      have done : (actAll .pending (turn.session.askedByPending pending batch)).Heedful
          (turn.tookFromPending pending frame batch) :=
        heedful_actAll going ⟨underway.1, fun _ => course_of_pending course met⟩
      exact (leads_onPending met decoded).mpr
        (done.from (tookFromPending_heeds course met decoded))

/-- A server that answers the call leaves the numbers. -/
theorem heedful_onConnected {attempt : Nat} {result : Except String (Nat × Connection)}
    (course : turn.session.Course) : (onConnected attempt result).Heedful turn := by
  have missed : turn.session.Heeds [] { turn.session with connecting := none } :=
    .congr rfl rfl rfl
  refine leads_onConnected (.congr rfl rfl rfl) (fun _ _ => missed.trans
    (@SessionTurn.abandoned_heeds ⟨{ turn.session with connecting := none }, turn.outputs⟩ _ _))
    fun called _ _ _ _ => ?_
  have free : turn.session.player.transfer = none := by
    cases course <;> simp_all
  exact .of_free (Session.isLocked_of_ended free) rfl rfl

/-- A call to another server leaves the numbers. -/
theorem heedful_onTransfer {server : Server} : (onTransfer server).Heedful turn := by
  simp only [Heedful, onTransfer, leads_bind, leads_session]
  split
  · exact heedful_connectTo
  · exact .congr rfl rfl rfl

/-- Whatever happens to a playing session, it heeds what is adopted with it. -/
theorem heeds_onEvent {event : Event} (going : turn.session.exit = none)
    (underway : turn.session.Underway) :
    (onEvent event).Leads turn
      (fun _ after => turn.session.Heeds (turn.session.log (.event event)) after.session)
      fun _ after => turn.session.Heeds (turn.session.log (.event event)) after.session := by
  have course := underway.2 going
  cases event with
  | client frame =>
    cases frame with
    | some frame =>
      have still {after : Session} (heeds : turn.session.Heeds [] after) :
          turn.session.Heeds (turn.session.log (.event (.client (some frame)))) after :=
        ⟨by rw [Session.adoptions_of_client]; exact heeds.mapping,
          by rw [Session.adoptions_of_client]; exact heeds.authority⟩
      exact (heeds_onClient going underway).mono (fun _ _ kept => still kept)
        fun _ _ kept => still kept
    | none => exact .congr rfl rfl rfl
  | backend frame =>
    cases frame with
    | some frame => exact heeds_onBackend going underway
    | none => exact heedful_loseBackend course
  | pending frame =>
    cases frame with
    | some frame => exact heeds_onPending going underway
    | none => exact heedful_failTransfer
  | connected attempt result => exact heedful_onConnected course
  | tick =>
    refine leads_bind.mpr (heedful_toClient.mono ?_ fun _ _ kept => kept)
    intro _ after kept
    exact (heedful_toBackend fun _ => Peer.flush_link).from kept
  | transfer server => exact heedful_onTransfer
  | disconnect reason => exact Session.Heeds.congr rfl rfl rfl
  | severed link => exact Session.Heeds.congr rfl rfl rfl

end Work

namespace Session

variable {session : Session}

/-! ## Moves -/

/-- Where there is no backend, nothing is noted. -/
theorem log_of_unmet {event : Event} (left : session.backend = none)
    (alone : session.pending = none) :
    session.log (.event event) = [] := by
  cases event with
  | client frame | backend frame | pending frame => cases frame <;> simp [log, left, alone]
  | _ => rfl

/-- A session that is closed down heeds what was adopted before. -/
theorem Heeds.closedDown {log : List Entry} {turn : SessionTurn} {exit : Exit}
    (heeds : session.Heeds log turn.session) :
    session.Heeds log (turn.closedDown exit).session :=
  heeds.trans (.gone rfl rfl)

/-- Whatever happens to a session that has joined, it heeds what is adopted with it. -/
theorem move_heeds (move : Move) (coherent : session.Coherent) (joined : session.HasJoined) :
    session.Heeds (session.log move) (session.move move).1 := by
  cases move with
  | push packet => exact .congr rfl rfl rfl
  | event event =>
    simp only [Session.move]
    cases coherent.handling event with
    | severed link =>
      refine .congr rfl ?_ ?_
      · simp only [handle, sever, Option.map_map]
        cases session.backend with
        | none => rfl
        | some backend =>
          simp only [Option.map_some, Function.comp_apply, Backend.endpoint]
          split <;> rfl
      · simp only [handle, sever, Option.map_map]
        cases session.pending with
        | none => rfl
        | some pending =>
          simp only [Option.map_some, Function.comp_apply, PendingBackend.endpoint]
          split <;> rfl
    | idle unplayed _ same =>
      rw [same]
      cases coherent with
      | closed _ left alone _ =>
        rw [log_of_unmet left alone]
        exact .congr rfl rfl rfl
      | joining joining _ => exact absurd joining (joined _)
      | playing playing => exact absurd playing unplayed
    | joins joining => exact absurd joining (joined _)
    | plays here playing going course =>
      refine handle_of_leads (fun turn => session.Heeds (session.log (.event event)) turn.session)
        playing here ?_
      exact (@Work.heeds_onEvent ⟨session, []⟩ event going ⟨playing, fun _ => course⟩).mono
        (fun _ _ heeds => ⟨fun _ => heeds, fun _ _ => heeds.closedDown⟩)
        fun _ _ heeds => heeds.closedDown

end Session

end Ferry
