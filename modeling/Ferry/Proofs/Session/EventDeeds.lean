import Ferry.Proofs.Session.PeerSpeech
import Mathlib.Logic.Relation

/-!
# What a session does, deed by deed

All that the work on an event comes to, whether it is done or fails, is a row of deeds: somebody is
told something, the player is called to a server or falls back on one, and so on. `Deed` has one
constructor for each, with what is known when it is done, so that what every deed keeps every event
keeps. `Takes` says what becomes of a session with an event in these terms.
-/

namespace Ferry

/-- The server that the player is on its way to, or is on. -/
def Session.heading (session : Session) : Option Server :=
  (Work.destination session).orElse fun _ => session.backend.map Backend.server

/-- One thing that a playing session does on an event. -/
inductive SessionTurn.Deed (event : Event) (turn : SessionTurn) : SessionTurn → Prop
  | toldClient {said : List BatchPacket} {client : Peer} {more : List Output}
      (speaks : turn.session.client.Speaks said client more) (stays : NoFarewells said) :
      Deed event turn ⟨{ turn.session with client := client }, turn.outputs ++ more⟩
  | toldBackend {backend : Backend} {said : List BatchPacket} {peer : Peer} {more : List Output}
      (on : turn.session.backend = some backend) (speaks : backend.peer.Speaks said peer more) :
      Deed event turn ⟨{ turn.session with backend := some { backend with peer := peer } },
        turn.outputs ++ more⟩
  | toldPending {pending : PendingBackend} {said : List BatchPacket} {peer : Peer}
      {more : List Output} (met : turn.session.pending = some pending)
      (speaks : pending.peer.Speaks said peer more) :
      Deed event turn ⟨{ turn.session with pending := some { pending with peer := peer } },
        turn.outputs ++ more⟩
  /-- A batch of the client or of the backend that it is on was looked at. -/
  | learned {player : Player} {counted : List Observation}
      (transfer : player.transfer = turn.session.player.transfer) :
      Deed event turn
        ⟨{ turn.session with player := player }, turn.outputs ++ counted.map .counted⟩
  | tookFromPending {pending : PendingBackend} {frame : Bytes} {batch : Batch}
      (met : turn.session.pending = some pending)
      (decoded : (pending.peer.connection.decode frame).1 = .ok batch)
      (course : turn.session.Course) : Deed event turn (turn.tookFromPending pending frame batch)
  /-- A player who is on its way elsewhere has lost its backend. -/
  | lostBackend (moving : (Work.destination turn.session).isSome = true) :
      Deed event turn ⟨{ turn.session with backend := none },
        turn.outputs ++ turn.session.backendClosing⟩
  /-- The server that the player was on its way to, or was on, was lost. -/
  | fellBack {lost : Server} {reason : Farewell} {message : String}
      (heading : turn.session.heading = some lost) :
      Deed event turn (turn.adrift.fallenBack lost reason message)
  /-- Somebody wants the player to be on another server. -/
  | called {server : Server} {source : Option Server} (asked : event = .transfer server)
      (going : turn.session.exit = none) (free : turn.session.player.transfer = none) :
      Deed event turn ⟨{ turn.session with
          pending := none
          connecting := some ⟨turn.session.attempts, server, source⟩
          attempts := turn.session.attempts + 1 },
        turn.outputs ++ [.dialed turn.session.attempts server]⟩
  /-- The connection that was called for is there. -/
  | met {connecting : Connecting} {peer : Peer} {arrival : Arrival}
      (called : turn.session.connecting = some connecting)
      (alone : turn.session.pending = none) (free : turn.session.player.transfer = none)
      (faces : peer.link.isClient = false) (target : arrival.target = connecting.server) :
      Deed event turn ⟨{ turn.session with connecting := none, pending := some ⟨peer, arrival⟩ },
        turn.outputs⟩
  /-- The player is to leave the old backend. -/
  | setOff {transfer : Transfer} (moving : turn.session.player.transfer = some transfer) :
      Deed event turn ⟨turn.session.setOff transfer, turn.outputs ++ [.packsRebuilt]⟩
  /-- The new backend has taken the place of the old one, and the client was told so, and sent what
  has waited for it. -/
  | sentOn {pending : PendingBackend} {transfer : Transfer} {said : List BatchPacket}
      {client : Peer} {more : List Output} (met : turn.session.pending = some pending)
      (moving : turn.session.player.transfer = some transfer)
      (aimed : pending.arrival.target = transfer.target)
      (speaks : turn.session.client.Speaks said client more)
      (ahead : said ⊆ (turn.session.player.arrivalPackets transfer).map BatchPacket.made ++
        transfer.waiting.packets) :
      Deed event turn ⟨{ turn.session.promoted pending { transfer with phase := .arriving } with
          client := client }, turn.outputs ++ more⟩
  /-- The client has arrived at the new backend. -/
  | arrived {backend : Backend} {transfer : Transfer} (on : turn.session.backend = some backend)
      (alone : turn.session.pending = none) (uncalled : turn.session.connecting = none)
      (moving : turn.session.player.transfer = some transfer)
      (there : backend.server = transfer.target) :
      Deed event turn
        ⟨{ turn.session with player := { turn.session.player with transfer := none } },
          turn.outputs⟩
  | reported {source : Option Server} {target : Server} :
      Deed event turn ⟨turn.session,
        turn.outputs ++ source.toList.map fun source => .transferred source target⟩
  /-- The session is to end. -/
  | ends {exit : Exit} :
      Deed event turn ⟨{ turn.session with exit := some exit }, turn.outputs⟩

/-- Deeds in a row. -/
abbrev SessionTurn.Deeds (event : Event) : SessionTurn → SessionTurn → Prop :=
  Relation.ReflTransGen (Deed event)

/-- Work that comes to deeds, whether it is done or fails. -/
abbrev Work.IsDeeds (work : Work Unit) (event : Event) (turn : SessionTurn) : Prop :=
  work.Leads turn (fun _ after => turn.Deeds event after) fun _ after => turn.Deeds event after

/-- What every deed keeps, deeds in a row keep. -/
theorem SessionTurn.Deeds.keeps {event : Event} {turn after : SessionTurn}
    (deeds : turn.Deeds event after) (inv : SessionTurn → Prop)
    (kept : ∀ turn after, turn.Deed event after → inv turn → inv after)
    (holds : inv turn) : inv after := by
  induction deeds with
  | refl => exact holds
  | tail _ deed ih => exact kept _ _ deed ih

/-- No deed changes how far a session has got, or what it is given from outside. -/
theorem SessionTurn.Deed.same {event : Event} {turn after : SessionTurn}
    (deed : turn.Deed event after) :
    after.session.stage = turn.session.stage ∧ after.session.services = turn.session.services := by
  cases deed with
  | fellBack =>
    unfold SessionTurn.fallenBack
    dsimp only
    split <;> exact ⟨rfl, rfl⟩
  | _ => exact ⟨rfl, rfl⟩

/-- A player who goes nowhere loses nothing but its backend when it is taken from all. -/
theorem SessionTurn.adrift_of_settled {turn : SessionTurn} (alone : turn.session.pending = none)
    (uncalled : turn.session.connecting = none) (free : turn.session.player.transfer = none) :
    turn.adrift =
      ⟨{ turn.session with backend := none }, turn.outputs ++ turn.session.backendClosing⟩ := by
  obtain ⟨session, outputs⟩ := turn
  obtain ⟨_, _, _, _, _, _, _, ⟨⟩, _, _⟩ := session
  cases alone
  cases uncalled
  cases free
  simp [adrift, Session.pendingClosing, Session.backendClosing]

/-- A backend that is lost already is not lost again with all else. -/
theorem SessionTurn.adrift_of_lost {turn : SessionTurn} (alone : turn.session.pending = none) :
    adrift ⟨{ turn.session with backend := none }, turn.outputs ++ turn.session.backendClosing⟩ =
      turn.adrift := by
  simp [adrift, Session.pendingClosing, Session.backendClosing, alone]

namespace Work

variable {event : Event} {turn middle : SessionTurn} {frame : Bytes}

/-- Work that goes on from a turn that deeds have led to. -/
theorem IsDeeds.from {work : Work Unit} (next : work.IsDeeds event middle)
    (here : turn.Deeds event middle) :
    work.Leads middle (fun _ after => turn.Deeds event after)
      fun _ after => turn.Deeds event after :=
  next.mono (fun _ _ rest => here.trans rest) fun _ _ rest => here.trans rest

/-! ## Writing -/

/-- What is said to the client is a deed, if it takes no leave. -/
theorem deeds_toClient {act : Peer → Except SessionError Unit × Peer × List Output}
    {said : List BatchPacket}
    (speaks : turn.session.client.Speaks said (act turn.session.client).2.1
      (act turn.session.client).2.2) (stays : NoFarewells said) :
    (toClient act).IsDeeds event turn := by
  have told := @SessionTurn.Deed.toldClient event turn _ _ _ speaks stays
  rw [IsDeeds, leads_toClient, leads_check]
  split
  · exact .single told
  · exact .single told

/-- What is said to the backend is a deed. -/
theorem deeds_toBackend {act : Peer → Except SessionError Unit × Peer × List Output}
    {said : List BatchPacket}
    (speaks : ∀ peer : Peer, peer.Speaks said (act peer).2.1 (act peer).2.2) :
    (toBackend act).IsDeeds event turn := by
  cases on : turn.session.backend with
  | none => exact (leads_toBackend_of_none on).mpr .refl
  | some backend =>
    have told := @SessionTurn.Deed.toldBackend event turn _ _ _ _ on (speaks backend.peer)
    rw [IsDeeds, leads_toBackend on, leads_check]
    split
    · exact .single told
    · exact .single told

/-- What is said to the new backend is a deed. -/
theorem deeds_toPending {act : Peer → Except SessionError Unit × Peer × List Output}
    {said : List BatchPacket}
    (speaks : ∀ peer : Peer, peer.Speaks said (act peer).2.1 (act peer).2.2) :
    (toPending act).IsDeeds event turn := by
  cases met : turn.session.pending with
  | none => exact (leads_toPending_of_none met).mpr .refl
  | some pending =>
    have told := @SessionTurn.Deed.toldPending event turn _ _ _ _ met (speaks pending.peer)
    rw [IsDeeds, leads_toPending met, leads_check]
    split
    · exact .single told
    · exact .single told

/-! ## Routing -/

/-- A player who is on its way to a server is heading for it. -/
theorem heading_of_destination {target : Server}
    (bound : destination turn.session = some target) : turn.session.heading = some target := by
  simp [Session.heading, bound]

/-- A transfer that fails comes to deeds. -/
theorem deeds_failTransfer {message : String} : (failTransfer message).IsDeeds event turn := by
  rw [IsDeeds, leads_failTransfer]
  cases bound : destination turn.session with
  | none => exact .refl
  | some target => exact .single (.fellBack (heading_of_destination bound))

/-- A backend that is lost comes to deeds. -/
theorem deeds_loseBackend {message : Option String} (course : turn.session.Course) :
    (loseBackend message).IsDeeds event turn := by
  cases on : turn.session.backend with
  | none => exact (leads_loseBackend_of_none on).mpr .refl
  | some backend =>
    have present : turn.session.backend.isSome = true := by rw [on]; rfl
    cases course with
    | settled _ alone uncalled free =>
      refine (leads_loseBackend_of_settled on free alone uncalled).mpr ?_
      rw [← SessionTurn.adrift_of_settled alone uncalled free]
      refine .single (.fellBack ?_)
      simp [Session.heading, destination, free, alone, uncalled, on]
    | dialing called alone free =>
      refine (leads_loseBackend_of_moving present (by simp [free]) (.inr (.inr called))).mpr ?_
      exact .single (.lostBackend (by simp [destination, free, alone, called]))
    | loggingIn met login uncalled free =>
      refine (leads_loseBackend_of_moving present (by simp [free]) ?_).mpr ?_
      · exact .inr (.inl (by rw [met]; rfl))
      · exact .single (.lostBackend (by simp [destination, free, met]))
    | departing met started uncalled moving locked aimed =>
      refine (leads_loseBackend_of_moving present ?_ (.inl (by rw [moving]; rfl))).mpr ?_
      · intro transfer same
        cases moving.symm.trans same
        simp [Transfer.isLocked, locked]
      · exact .single (.lostBackend (by simp [destination, moving]))
    | arriving _ alone uncalled moving left there =>
      -- The backend is the new one already, so the transfer goes with it.
      refine (leads_loseBackend_of_arriving present moving ?_).mpr ?_
      · simp [Transfer.isLocked, left]
      · rw [SessionTurn.abandoned, SessionTurn.adrift_of_lost alone]
        exact .single (.fellBack (heading_of_destination (by simp [destination, moving])))

/-- To call for a server that the player is asked to come to is a deed. -/
theorem deeds_connectTo {server : Server} {source : Option Server}
    (going : turn.session.exit = none) :
    (connectTo server source).IsDeeds (.transfer server) turn := by
  cases moving : turn.session.player.transfer with
  | some transfer => exact (leads_connectTo_of_moving (by rw [moving]; rfl)).mpr .refl
  | none => exact (leads_connectTo moving).mpr (.single (.called rfl going moving))

/-! ## The two phases of a transfer -/

/-- The start of a transfer comes to deeds, if its teardown takes no leave. -/
theorem deeds_startTransfer {teardown : List Packet}
    (stays : NoFarewells (teardown.map BatchPacket.made)) :
    (startTransfer teardown).IsDeeds event turn := by
  cases moving : turn.session.player.transfer with
  | none => exact (leads_startTransfer_of_none moving).mpr .refl
  | some transfer =>
    refine (leads_startTransfer moving).mpr
      ((deeds_toClient Peer.speaks_sendNow ?_).from (.single (.setOff moving)))
    rw [List.map_append]
    exact noFarewells_append.mpr ⟨stays, noFarewells_departure _ _⟩

/-- To put the new backend in the place of the old one comes to deeds. -/
theorem deeds_finishDeparture {transfer : Transfer} {pending : PendingBackend}
    (met : turn.session.pending = some pending)
    (moving : turn.session.player.transfer = some transfer)
    (aimed : pending.arrival.target = transfer.target) :
    (finishDeparture { transfer with phase := .arriving }).IsDeeds event turn := by
  refine (leads_finishDeparture met).mpr ?_
  have told := @Peer.speaks_sendNow turn.session.client
    (turn.session.player.arrivalPackets transfer)
  rw [leads_toClient, leads_check]
  -- What has waited is sent only after a first batch that went out; both make one deed.
  split
  · have released := told.trans (@Peer.speaks_writeAll _ transfer.waiting.release.1)
    rw [Waiting.release_packets] at released
    have sent := @SessionTurn.Deed.sentOn event turn _ _ _ _ _ met moving aimed released
      (List.Subset.refl _)
    rw [leads_toClient, leads_check]
    rw [← List.append_assoc] at sent
    split
    · exact .single sent
    · exact .single sent
  · exact .single (.sentOn met moving aimed told (List.subset_append_left _ _))

/-- The end of a transfer comes to deeds, where the backend is its target. -/
theorem deeds_finishArrival {transfer : Transfer} {backend : Backend}
    (on : turn.session.backend = some backend) (alone : turn.session.pending = none)
    (uncalled : turn.session.connecting = none)
    (moving : turn.session.player.transfer = some transfer)
    (there : backend.server = transfer.target) {onward : Transfer}
    (same : onward.target = transfer.target) : (finishArrival onward).IsDeeds event turn := by
  have arrived := @SessionTurn.Deed.arrived event turn _ _ on alone uncalled moving there
  have told := (Relation.ReflTransGen.single arrived).tail
    (@SessionTurn.Deed.toldClient event _ _ _ _ (@Peer.speaks_sendNow turn.session.client _)
      noFarewells_completion)
  refine leads_finishArrival.mpr ?_
  rw [leads_toClient, leads_check]
  split
  · split
    · exact ((deeds_toBackend fun _ => Peer.speaks_sendNow).from told).mono
        (fun _ _ rest => rest.tail .reported) fun _ _ rest => rest
    · refine told.tail (.fellBack ?_)
      simp [Session.heading, destination, alone, uncalled, on, there, same]
  · exact told

/-- An acknowledgment comes to deeds. -/
theorem deeds_acknowledge (course : turn.session.Course) :
    acknowledge.IsDeeds event turn := by
  have idle (free : turn.session.player.transfer = none) : acknowledge.IsDeeds event turn := by
    simpa [IsDeeds, acknowledge, free] using Relation.ReflTransGen.refl
  cases course with
  | settled _ _ _ free => exact idle free
  | dialing _ _ free => exact idle free
  | loggingIn _ _ _ free => exact idle free
  | departing met started uncalled moving locked aimed =>
    simp only [IsDeeds, acknowledge, leads_bind, leads_session, moving, Option.map_some,
      Transfer.acknowledge, locked]
    exact deeds_finishDeparture met moving aimed
  | arriving on alone uncalled moving left there =>
    simp only [IsDeeds, acknowledge, leads_bind, leads_session, moving, Option.map_some,
      Transfer.acknowledge, left]
    exact deeds_finishArrival on alone uncalled moving there rfl

/-! ## Actions -/

/-- An answer comes to deeds, unless it is for the client. -/
theorem deeds_reply {source : BatchSource} {packet : Packet} (calm : source ≠ .client) :
    (reply source packet).IsDeeds event turn := by
  unfold reply
  cases source with
  | client => exact absurd rfl calm
  | backend => exact deeds_toBackend fun _ => Peer.speaks_sendNow
  | pending => exact deeds_toPending fun _ => Peer.speaks_sendNow

end Work

/-- Whether an action tells the client nothing that takes leave of it. -/
def Action.IsCalm (source : BatchSource) : Action → Prop
  | .reply _ => source ≠ .client
  | .transferStarted teardown => NoFarewells (teardown.map BatchPacket.made)
  | _ => True

namespace Work

variable {event : Event} {turn middle : SessionTurn} {frame : Bytes} {source : BatchSource}

/-- A calm action comes to deeds. -/
theorem deeds_act {action : Action} (calm : action.IsCalm source) (course : turn.session.Course) :
    (act source action).IsDeeds event turn := by
  cases action with
  | reply packet => exact deeds_reply calm
  | dimensionChanged => exact deeds_acknowledge course
  | transferStarted teardown => exact deeds_startTransfer calm
  | transferFailed message => exact deeds_failTransfer
  | kicked message => exact deeds_loseBackend course

/-- Calm actions come to deeds, one after the other. -/
theorem deeds_actAll {actions : List Action} (calm : ∀ action ∈ actions, action.IsCalm source)
    (going : turn.session.exit = none) (underway : turn.session.Underway) :
    (actAll source actions).IsDeeds event turn := by
  refine (leads_actAll (fun after => turn.Deeds event after ∧ after.session.Underway) ?_ going
    ⟨.refl, underway⟩).mono (fun _ _ kept => kept.1) fun _ _ => id
  rintro action mem here goes ⟨deeds, kept⟩
  refine ((deeds_act (calm action mem) (kept.2 goes)).from deeds |>.and
    (staysUnderway_act kept (kept.2 goes))).mono (fun _ _ done => done) fun _ _ failed => failed.1

/-- A batch is passed on, and then what it asks for is done. -/
theorem deeds_passOn {write : Work Unit} {actions : List Action} (here : turn.Deeds event middle)
    (calm : ∀ action ∈ actions, action.IsCalm source) (deeds : write.IsDeeds event middle)
    (kept : write.Leads middle
      (fun _ after => after.session.exit = none ∧ after.session.Underway) fun _ _ => True) :
    write.Leads middle
      (fun _ after => (actAll source actions).Leads after
        (fun _ last => turn.Deeds event last) fun _ last => turn.Deeds event last)
      fun _ after => turn.Deeds event after := by
  refine ((deeds.from here).and kept).mono ?_ fun _ _ failed => failed.1
  rintro _ after ⟨deeds, going, underway⟩
  exact (deeds_actAll calm going underway).from deeds

/-! ## Events -/

/-- A frame of the client comes to deeds. -/
theorem deeds_onClient (going : turn.session.exit = none) (underway : turn.session.Underway) :
    (onClient frame).IsDeeds event turn := by
  have opened := @SessionTurn.Deed.toldClient event turn _ _ _
    (@Peer.speaks_decoding turn.session.client frame) (fun _ mem => by cases mem)
  cases decoded : (turn.session.client.connection.decode frame).1 with
  | error fault => exact (leads_onClient_of_error decoded).mpr (.single opened)
  | ok batch =>
    have same : (turn.session.fromClient batch).player.transfer = turn.session.player.transfer :=
      process_client.1
    have took : (turn.tookFromClient frame batch).session.Underway :=
      underway.congr rfl rfl rfl rfl rfl (congrArg _ same)
    have calm : ∀ action ∈ (turn.session.fromClient batch).actions, action.IsCalm .client := by
      intro action mem
      rw [process_client.2 action mem]
      exact trivial
    refine (leads_onClient decoded).mpr
      (deeds_passOn ((Relation.ReflTransGen.single opened).tail (.learned same)) calm ?_ ?_)
    · split
      · exact deeds_toBackend fun _ => Peer.speaks_write
      · exact .refl
    · split
      · exact leads_toBackend_keeps (fun session => session.exit = none ∧ session.Underway)
          ⟨going, took⟩ fun backend on peer =>
            ⟨going, took.congr rfl rfl (by simp [on]) rfl rfl rfl⟩
      · exact ⟨going, took⟩

/-- A frame of the backend comes to deeds. -/
theorem deeds_onBackend (going : turn.session.exit = none) (underway : turn.session.Underway) :
    (onBackend frame).IsDeeds event turn := by
  cases on : turn.session.backend with
  | none => exact (leads_onBackend_of_none on).mpr .refl
  | some backend =>
    have opened := @SessionTurn.Deed.toldBackend event turn _ _ _ _ on
      (@Peer.speaks_decoding backend.peer frame)
    cases decoded : (backend.peer.connection.decode frame).1 with
    | error fault => exact (leads_onBackend_of_error on decoded).mpr (.single opened)
    | ok batch =>
      cases locked : turn.session.player.isLocked with
      | true => exact (leads_onBackend_of_locked on locked decoded).mpr (.single opened)
      | false =>
        have same : (turn.session.fromBackend backend batch).player.transfer =
          turn.session.player.transfer := process_backend.1
        have took : (turn.tookFromBackend backend frame batch).session.Underway :=
          underway.congr rfl rfl (by simp [SessionTurn.tookFromBackend, on]) rfl rfl
            (congrArg _ same)
        have calm : ∀ action ∈ (turn.session.fromBackend backend batch).actions,
            action.IsCalm .backend := by
          intro action mem
          obtain ⟨message, rfl⟩ := process_backend.2 action mem
          exact trivial
        refine (leads_onBackend on locked decoded).mpr
          (deeds_passOn ((Relation.ReflTransGen.single opened).tail (.learned same)) calm ?_ ?_)
        · split
          · exact deeds_toClient Peer.speaks_write
              ((Handler.backend_detains _).process (Connection.decode_received decoded))
          · exact .refl
        · split
          · exact leads_toClient_keeps (fun session => session.exit = none ∧ session.Underway)
              fun client => ⟨going, took.congr rfl rfl rfl rfl rfl rfl⟩
          · exact ⟨going, took⟩

/-- A transfer starts with taking from the client what it shows. -/
theorem teardown_of_progress {arrival last : Arrival} {transfer kept : Option Transfer}
    {actions : List Action} {teardown : List Packet}
    (progress : arrival.Progress transfer last kept actions)
    (mem : .transferStarted teardown ∈ actions) : ∃ scene : Scene, teardown = scene.teardown := by
  cases progress with
  | loggingIn _ quiet => cases (quiet _ mem).2
  | goesOn _ _ quiet => cases (quiet _ mem).2
  | @spawned _ scene _ _ _ _ once =>
    have starts : .transferStarted teardown ∈ actions.filter Action.isStart :=
      List.mem_filter.mpr ⟨mem, rfl⟩
    rw [once] at starts
    cases List.mem_singleton.mp starts
    exact ⟨scene, rfl⟩

/-- What a new backend asks for tells the client nothing that takes leave of it. -/
theorem calm_askedByPending {session : Session} {pending : PendingBackend} {batch : Batch} :
    ∀ action ∈ session.askedByPending pending batch, action.IsCalm .pending := by
  intro action mem
  have own := askedByPending_own mem
  cases action with
  | reply packet => exact fun same => by cases same
  | transferStarted teardown =>
    rcases List.mem_append.mp mem with mem | mem
    · obtain ⟨scene, rfl⟩ := teardown_of_progress (fromPending_progress session pending batch) mem
      exact noFarewells_teardown scene
    · obtain ⟨message, same⟩ := keptFromPending_actions mem
      cases same
  | transferFailed message => exact trivial
  | dimensionChanged => exact trivial
  | kicked message => exact trivial

/-- A frame of a new backend comes to deeds. -/
theorem deeds_onPending (going : turn.session.exit = none) (underway : turn.session.Underway) :
    (onPending frame).IsDeeds event turn := by
  cases met : turn.session.pending with
  | none => exact (leads_onPending_of_none met).mpr .refl
  | some pending =>
    cases decoded : (pending.peer.connection.decode frame).1 with
    | error fault =>
      refine (leads_onPending_of_error met decoded).mpr (deeds_failTransfer.from (.single ?_))
      exact .toldPending met Peer.speaks_decoding
    | ok batch =>
      have course := underway.2 going
      have took : (turn.tookFromPending pending frame batch).session.Underway :=
        ⟨underway.1, fun _ => course_of_pending course met⟩
      have goes : (turn.tookFromPending pending frame batch).session.exit = none := going
      exact (leads_onPending met decoded).mpr ((deeds_actAll calm_askedByPending goes took).from
        (.single (.tookFromPending met decoded course)))

/-- A server that answers the call, or does not, comes to deeds. -/
theorem deeds_onConnected {attempt : Nat} {result : Except String (Nat × Connection)}
    (course : turn.session.Course) : (onConnected attempt result).IsDeeds event turn := by
  by_cases uncalled : ∀ connecting, turn.session.connecting = some connecting →
      connecting.attempt ≠ attempt
  · exact (leads_onConnected_of_other uncalled).mpr .refl
  · obtain ⟨connecting, called, same⟩ : ∃ connecting,
        turn.session.connecting = some connecting ∧ connecting.attempt = attempt := by
      simpa using uncalled
    obtain ⟨alone, free⟩ : turn.session.pending = none ∧ turn.session.player.transfer = none := by
      cases course with
      | dialing _ alone free => exact ⟨alone, free⟩
      | settled _ _ uncalled => simp [called] at uncalled
      | loggingIn _ _ uncalled => simp [called] at uncalled
      | departing _ _ uncalled => simp [called] at uncalled
      | arriving _ _ uncalled => simp [called] at uncalled
    cases result with
    | error message =>
      refine (leads_onConnected_of_error called same).mpr (.single (.fellBack ?_))
      simp [Session.heading, destination, free, alone, called]
    | ok there =>
      exact (leads_onConnected_of_ok called same).mpr (.single (.met called alone free rfl rfl))

/-- A call to another server comes to deeds of that call. -/
theorem deeds_onTransfer {server : Server} (going : turn.session.exit = none) :
    (onTransfer server).IsDeeds (.transfer server) turn := by
  simp only [IsDeeds, onTransfer, leads_bind, leads_session]
  split
  · exact deeds_connectTo going
  · exact .refl

/-- Whatever happens to a playing session, all that it does on an event is deeds. -/
theorem deeds_onEvent (going : turn.session.exit = none) (underway : turn.session.Underway) :
    (onEvent event).IsDeeds event turn := by
  cases event with
  | client frame =>
    cases frame with
    | some frame => exact deeds_onClient going underway
    | none => exact .single .ends
  | backend frame =>
    cases frame with
    | some frame => exact deeds_onBackend going underway
    | none => exact deeds_loseBackend (underway.2 going)
  | pending frame =>
    cases frame with
    | some frame => exact deeds_onPending going underway
    | none => exact deeds_failTransfer
  | connected attempt result => exact deeds_onConnected (underway.2 going)
  | tick =>
    refine leads_bind.mpr ((deeds_toClient Peer.speaks_flush fun _ mem => by cases mem).mono ?_
      fun _ _ failed => failed)
    intro _ _ told
    exact (deeds_toBackend fun _ => Peer.speaks_flush).from told
  | transfer server => exact deeds_onTransfer going
  | disconnect reason => exact .single .ends
  | severed link => exact .refl

end Work

/-! ## Events that a session takes in -/

namespace Session

/-- If a session is closed down with an event, the turn that it was in by then, and why. -/
def ending (session : Session) (event : Event) : Option (SessionTurn × Exit) :=
  match session.stage, event with
  | _, .severed _ => none
  | .over, _ => none
  | .joining server, .connected 0 result =>
    match result with
    | .ok _ => none
    | .error message => some (⟨session, []⟩, .farewell (.transferFailed server.name message))
  | .joining _, _ => none
  | .playing, event =>
    -- A fault ends the session as well as a deed that wishes so, and goes before it.
    let (fault, turn) := after (Work.onEvent event) ⟨session, []⟩
    let exit := match fault with
      | some fault => some (turn.session.exitFor fault)
      | none => turn.session.exit
    exit.map fun exit => (turn, exit)

/-- What becomes of a session with an event, and of the turn in which it was closed down if it
was. -/
inductive Takes (session : Session) : Event → Option (SessionTurn × Exit) →
    Session × List Output → Prop
  | severed (link : LinkId) : Takes session (.severed link) none (session.sever link, [])
  /-- A session that is over, or waits for something else, takes nothing in. -/
  | idle {event : Event} (unplayed : session.stage ≠ .playing) :
      Takes session event none (session, [])
  | joined {server : Server} {number : Nat} {connection : Connection}
      (joining : session.stage = .joining server) (bare : session.IsBare) :
      Takes session (.connected 0 (.ok (number, connection))) none
        ({ session with
            stage := .playing
            backend := some ⟨server, session.backendPeer number connection⟩ }, [])
  | missed {server : Server} {message : String} {exit : Exit}
      (joining : session.stage = .joining server) (bare : session.IsBare) :
      Takes session (.connected 0 (.error message)) (some (⟨session, []⟩, exit))
        ((SessionTurn.closedDown ⟨session, []⟩ exit).session,
          (SessionTurn.closedDown ⟨session, []⟩ exit).outputs)
  | played {event : Event} {after : SessionTurn} (playing : session.stage = .playing)
      (going : session.exit = none) (deeds : SessionTurn.Deeds event ⟨session, []⟩ after)
      (goes : after.session.exit = none) :
      Takes session event none (after.session, after.outputs)
  | ended {event : Event} {after : SessionTurn} {exit : Exit}
      (playing : session.stage = .playing) (going : session.exit = none)
      (deeds : SessionTurn.Deeds event ⟨session, []⟩ after) :
      Takes session event (some (after, exit))
        ((after.closedDown exit).session, (after.closedDown exit).outputs)

variable {session : Session}

/-- A playing session is closed down if its work fails, or wants it to. -/
theorem ending_of_playing {event : Event} (here : ∀ link, event ≠ .severed link)
    (playing : session.stage = .playing) :
    session.ending event =
      (match (after (Work.onEvent event) ⟨session, []⟩).1 with
        | some fault => some ((after (Work.onEvent event) ⟨session, []⟩).2.session.exitFor fault)
        | none => (after (Work.onEvent event) ⟨session, []⟩).2.session.exit).map
          fun exit => ((after (Work.onEvent event) ⟨session, []⟩).2, exit) := by
  unfold ending
  rw [playing]
  cases event with
  | severed link => exact absurd rfl (here link)
  | _ => rfl

/-- What becomes of a playing session comes to deeds, and to the end if it is closed down. -/
theorem takes_of_playing {event : Event} (here : ∀ link, event ≠ .severed link)
    (playing : session.stage = .playing) (going : session.exit = none) (course : session.Course) :
    session.Takes event (session.ending event) (session.handle event) := by
  have deeds := @Work.deeds_onEvent event ⟨session, []⟩ going ⟨playing, fun _ => course⟩
  rw [ending_of_playing here playing, handle_of_playing playing here]
  unfold Work.IsDeeds Work.Leads at deeds
  unfold after
  cases ran : Work.onEvent event ⟨session, []⟩ with
  | ok value last =>
    rw [ran] at deeds
    cases wish : last.session.exit with
    | none =>
      simp only [settle, wish, Option.map_none]
      exact .played playing going deeds wish
    | some exit =>
      simp only [settle, wish, Option.map_some, after_shutdown]
      exact .ended playing going deeds
  | error fault last =>
    rw [ran] at deeds
    simp only [settle, Option.map_some, after_shutdown]
    exact .ended playing going deeds

/-- What a coherent session takes in. -/
theorem Coherent.takes (event : Event) (coherent : session.Coherent) :
    session.Takes event (session.ending event) (session.handle event) := by
  by_cases gone : ∃ link, event = .severed link
  · obtain ⟨link, rfl⟩ := gone
    simp only [ending, handle]
    exact .severed link
  · have here : ∀ link, event ≠ .severed link := fun link same => gone ⟨link, same⟩
    cases coherent with
    | playing playing going course => exact takes_of_playing here playing going course
    | closed ended =>
      have idle : session.ending event = none := by
        unfold ending
        rw [ended]
        cases event <;> rfl
      rw [idle, handle_of_over ended here]
      exact .idle (by simp [ended])
    | joining joining bare =>
      unfold ending handle
      rw [joining]
      cases event with
      | severed link => exact absurd rfl (here link)
      | connected attempt result =>
        cases attempt with
        | succ attempt => exact .idle (by simp [joining])
        | zero =>
          cases result with
          | ok there => exact .joined joining bare
          | error message =>
            simp only [join, after_shutdown]
            exact .missed joining bare
      | _ => exact .idle (by simp [joining])

end Session

end Ferry
