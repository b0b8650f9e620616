import Ferry.Proofs.Session.ClientDirections
import Ferry.Proofs.Transfer.AcknowledgmentCredit

/-!
# Where a transfer is bound for

A packet that starts the game or changes the dimension puts the client into a dimension. A
transfer goes by way of a dimension that is neither the one that the client is in nor the one in
which the new backend has spawned the player. But a new backend may send the player on while its
packets wait, and then the transfer is bound for wherever it has sent the player last.
-/

namespace Ferry

/-- The dimension into which a packet puts the client that hears it. -/
def Packet.dimension? : Packet → Option Int32
  | .startGame start => some start.dimension
  | .changeDimension change => some change.dimension
  | _ => none

def BatchPacket.dimension? (version : Version) (packet : BatchPacket) : Option Int32 :=
  match packet.decode version with
  | .ok value => value.dimension?
  | .error _ => none

/-- The dimension that a client is in that has heard some packets, if any of them says so. -/
def lastDimension (version : Version) (packets : List BatchPacket) : Option Int32 :=
  (packets.filterMap (BatchPacket.dimension? version)).getLast?

section Dimensions

variable {version : Version} {packet : BatchPacket} {first second : List BatchPacket}

@[simp] theorem lastDimension_nil : lastDimension version [] = none := rfl

/-- What was heard last counts, if it says anything of a dimension. -/
@[simp] theorem lastDimension_append : lastDimension version (first ++ second) =
    (lastDimension version second).or (lastDimension version first) := by
  unfold lastDimension
  rw [List.filterMap_append, List.getLast?_append]

/-- A single packet says of the dimension what it says. -/
@[simp] theorem lastDimension_singleton :
    lastDimension version [packet] = packet.dimension? version := by
  unfold lastDimension
  cases same : packet.dimension? version <;> simp [same]

/-- Packets that name no dimension leave the client where it is. -/
theorem lastDimension_of_none (silent : ∀ packet ∈ first, packet.dimension? version = none) :
    lastDimension version first = none := by
  unfold lastDimension
  rw [List.filterMap_eq_nil_iff.mpr silent]
  rfl

@[simp] theorem dimension?_made {value : Packet} :
    (BatchPacket.made value).dimension? version = value.dimension? := rfl

/-- Packets of the proxy say of dimensions what they say. -/
theorem filterMap_dimension?_made {packets : List Packet} :
    (packets.map BatchPacket.made).filterMap (BatchPacket.dimension? version) =
      packets.filterMap Packet.dimension? := by
  rw [List.filterMap_map]
  rfl

/-- A plain packet puts nobody into a dimension. -/
theorem BatchPacket.IsPlain.dimension? (plain : packet.IsPlain) :
    packet.dimension? version = none := by
  obtain ⟨value, rfl, plain⟩ := plain
  cases value with
  | stopSound => rfl
  | disconnect => rfl
  | _ => cases plain

/-- A plain packet changes no dimension. -/
theorem BatchPacket.IsPlain.isChange (plain : packet.IsPlain) : packet.isChange = false := by
  obtain ⟨value, rfl, plain⟩ := plain
  cases value with
  | stopSound => rfl
  | disconnect => rfl
  | _ => cases plain

/-- Only a packet that starts the game or changes the dimension names one. -/
theorem Packet.dimension?_of_id {value : Packet} (start : value.id ≠ PacketId.startGame)
    (change : value.id ≠ PacketId.changeDimension) : value.dimension? = none := by
  cases value with
  | startGame => exact absurd rfl start
  | changeDimension => exact absurd rfl change
  | _ => rfl

/-- A packet that is received as neither a start of a game nor a change of dimension says nothing of
one. -/
theorem BatchPacket.dimension?_of_id (received : packet.decoded = none)
    (start : packet.header.id ≠ PacketId.startGame)
    (change : packet.header.id ≠ PacketId.changeDimension) :
    packet.dimension? version = none := by
  unfold BatchPacket.dimension?
  cases decoded : packet.decode version with
  | error fault => rfl
  | ok value =>
    have same := BatchPacket.id_of_decode received decoded
    exact Packet.dimension?_of_id (same ▸ start) (same ▸ change)

/-- A packet names the same dimension on the other side. -/
theorem Mapping.packet_dimension? {mapping : Mapping} {direction : Direction} {value : Packet} :
    (mapping.packet direction value).dimension? = value.dimension? := by
  cases value with
  | levelChunk chunk => cases direction <;> rfl
  | subChunk chunk => cases direction <;> rfl
  | _ => rfl

end Dimensions

/-! ## Bridging -/

namespace Bridge

variable {σ : Type} {version reader : Version} {batch : Batch} {player : Player}

/-- A packet that is passed on names the dimension that it named before, and passing it on moves
nobody. -/
theorem passOn_dimension {direction : Direction} (packet : BatchPacket) (handled : Handled σ) :
    (passOn direction packet handled).1.dimension? reader = handled.packet.dimension? ∧
      (passOn direction packet handled).2.dimension = handled.player.dimension ∧
      (passOn direction packet handled).2.transfer = handled.player.transfer := by
  obtain ⟨value, same, -, decoded, player⟩ := @passOn_packet σ direction packet handled
  refine ⟨?_, ?_, ?_⟩
  · unfold BatchPacket.dimension? BatchPacket.decode
    rw [decoded]
    rcases same with rfl | rfl
    · rfl
    · exact Mapping.packet_dimension?
  · rw [player]
    split <;> rfl
  · rw [player]
    split <;> rfl

/-- What the handler of the backend makes of a packet: it lets it through as it is, unless it says
nothing of a dimension, and the player is where it says. -/
theorem handle_backend {server : Server} {id : PacketId} {value : Packet} (same : value.id = id) :
    let handled := handle (Handler.backend server) () player id value
    handled.packet = value ∧
      handled.player.dimension = value.dimension?.getD player.dimension ∧
      handled.player.scene = player.scene ∧
      (handled.verdict = .cancel ∨ handled.verdict = .fail → value.dimension? = none) := by
  intro handled
  by_cases wanted : (Handler.backend server).wants () id = true
  · have looked : handled = (Handler.backend server).handle () player value := if_pos wanted
    rw [looked]
    unfold Handler.backend
    cases value <;> simp [Handled.untouched, Packet.dimension?, Player.adopt]
  · have ignored : handled = Handled.untouched () player value := if_neg wanted
    have silent : value.dimension? = none := by
      simp only [Handler.backend, ← same, Bool.or_eq_true, decide_eq_true_eq, not_or] at wanted
      exact Packet.dimension?_of_id wanted.1.1.1 wanted.1.1.2
    rw [ignored, silent]
    exact ⟨rfl, rfl, rfl, fun _ => rfl⟩

/-- What the handler of a new backend that has spawned the player makes of a packet: if it lets it
through, the transfer is bound for where the packet says. -/
theorem handle_arrival {arrival : Arrival} {id : PacketId} {value : Packet}
    (game : arrival.started = true) (same : value.id = id) :
    let handled := handle Handler.arrival arrival player id value
    handled.packet = value ∧ handled.state = arrival ∧ handled.player.scene = player.scene ∧
      (handled.verdict = .cancel ∨ handled.verdict = .fail →
        handled.player.transfer = player.transfer) ∧
      (handled.verdict = .forward ∨ handled.verdict = .modified →
        handled.player.transfer = player.transfer.map fun transfer =>
          transfer.toDimension (value.dimension?.getD transfer.targetDimension)) := by
  intro handled
  have unmoved : player.transfer = player.transfer.map fun transfer =>
      transfer.toDimension transfer.targetDimension := by
    cases player.transfer <;> rfl
  by_cases wanted : Handler.arrival.wants arrival id = true
  · have looked : handled = arrival.handleGame player value := by
      refine (if_pos wanted).trans ?_
      simp [Handler.arrival, game]
    rw [looked]
    cases value with
    | changeDimension change => exact ⟨rfl, rfl, rfl, by simp [Arrival.handleGame,
        Handled.untouched], fun _ => rfl⟩
    | startGame start => exact ⟨rfl, rfl, rfl, fun _ => rfl, by simp [Arrival.handleGame]⟩
    | _ => exact ⟨rfl, rfl, rfl, fun _ => rfl, fun _ => unmoved⟩
  · have ignored : handled = Handled.untouched arrival player value := if_neg wanted
    have silent : value.dimension? = none := by
      simp only [Handler.arrival, ← same, game, Bool.not_true, Bool.false_or, Bool.or_eq_true,
        decide_eq_true_eq, not_or] at wanted
      exact Packet.dimension?_of_id wanted.2 wanted.1.1.2
    rw [ignored, silent]
    exact ⟨rfl, rfl, rfl, fun _ => rfl, fun _ => unmoved⟩

/-- A packet that nobody notices on its way to the client says nothing of a dimension, if the
handler looks at those that do. -/
theorem dimension?_of_unnoticed {handler : Handler σ} {state : σ} {packet : BatchPacket}
    (received : packet.decoded = none)
    (wants : ∀ id, id = PacketId.startGame ∨ id = PacketId.changeDimension →
      handler.wants state id = true)
    (unnoticed : isNoticed handler .clientbound state player packet.header.id = false) :
    packet.dimension? reader = none := by
  have unwanted : handler.wants state packet.header.id = false := by
    simp only [isNoticed, Bool.or_eq_false_iff] at unnoticed
    exact unnoticed.1.1
  refine BatchPacket.dimension?_of_id received ?_ ?_
  · intro same
    rw [wants _ (.inl same)] at unwanted
    cases unwanted
  · intro same
    rw [wants _ (.inr same)] at unwanted
    cases unwanted

/-- A batch of a new backend takes the transfer where it is to take the client. -/
theorem process_arrival_aim {arrival : Arrival} (game : arrival.started = true)
    (received : ∀ packet ∈ batch.packets, packet.decoded = none) :
    (process Handler.arrival .clientbound version arrival player batch).player.transfer =
      player.transfer.map fun transfer => transfer.toDimension
        ((lastDimension reader (process Handler.arrival .clientbound version arrival player
          batch).batch.packets).getD transfer.targetDimension) := by
  let inv (passage : Arrival × Player × List BatchPacket) : Prop :=
    passage.1.started = true ∧ passage.2.1.transfer = player.transfer.map fun transfer =>
      transfer.toDimension ((lastDimension reader passage.2.2).getD transfer.targetDimension)
  have holds : inv (arrival, player, []) := by
    refine ⟨game, ?_⟩
    show player.transfer = _
    cases player.transfer <;> rfl
  refine (process_tracks inv ?_ holds).2
  intro crossing packet mem here passage crosses
  obtain ⟨started, aimed⟩ : crossing.state.started = true ∧ crossing.player.transfer =
      player.transfer.map fun transfer => transfer.toDimension
        ((lastDimension reader crossing.packets).getD transfer.targetDimension) := here
  cases crosses with
  | unread unnoticed =>
    have silent : packet.dimension? reader = none := by
      refine dimension?_of_unnoticed (received packet mem) ?_ unnoticed
      rintro _ (rfl | rfl) <;> simp [Handler.arrival]
    exact ⟨started, by simpa [silent] using aimed⟩
  | unreadable => exact ⟨started, aimed⟩
  | @takenOut value handled decoded same verdict =>
    obtain ⟨-, state, -, still, -⟩ := @handle_arrival crossing.player crossing.state
      packet.header.id value started (BatchPacket.id_of_decode (received packet mem) decoded)
    rw [← same] at state still
    exact ⟨by rw [state]; exact started, (still verdict).trans aimed⟩
  | @letThrough value handled decoded same verdict =>
    obtain ⟨kept, state, -, -, moved⟩ := @handle_arrival crossing.player crossing.state
      packet.header.id value started (BatchPacket.id_of_decode (received packet mem) decoded)
    obtain ⟨named, -, still⟩ := @passOn_dimension Arrival reader .clientbound packet handled
    rw [← same] at state moved kept
    refine ⟨by rw [state]; exact started, ?_⟩
    show (passOn .clientbound packet handled).2.transfer = _
    rw [still, moved verdict, aimed, lastDimension_append, lastDimension_singleton, named, kept]
    cases player.transfer with
    | none => rfl
    | some transfer => cases value.dimension? <;> rfl

end Bridge

namespace Session

variable {session : Session} {batch : Batch} {reader : Version}

/-- A batch of the backend that is passed on takes the player where it takes the client. -/
theorem fromBackend_dimension {backend : Backend}
    (received : ∀ packet ∈ batch.packets, packet.decoded = none) :
    (session.fromBackend backend batch).player.dimension =
      (lastDimension reader (session.fromBackend backend batch).batch.packets).getD
        session.player.dimension := by
  let inv (passage : Unit × Player × List BatchPacket) : Prop :=
    passage.2.1.dimension = (lastDimension reader passage.2.2).getD session.player.dimension
  refine Bridge.process_tracks inv ?_ rfl
  intro crossing packet mem here passage crosses
  have here : crossing.player.dimension =
      (lastDimension reader crossing.packets).getD session.player.dimension := here
  cases crosses with
  | unread unnoticed =>
    have silent : packet.dimension? reader = none := by
      refine Bridge.dimension?_of_unnoticed (received packet mem) ?_ unnoticed
      rintro _ (rfl | rfl) <;> rfl
    simpa [inv, silent] using here
  | unreadable => exact here
  | takenOut decoded same verdict =>
    obtain ⟨-, moved, -, silent⟩ := @Bridge.handle_backend crossing.player backend.server
      packet.header.id _ (BatchPacket.id_of_decode (received packet mem) decoded)
    rw [← same] at moved silent
    simp only [inv, moved, silent verdict, Option.getD_none, here]
  | @letThrough value handled decoded same =>
    obtain ⟨kept, moved, -, -⟩ := @Bridge.handle_backend crossing.player backend.server
      packet.header.id value (BatchPacket.id_of_decode (received packet mem) decoded)
    obtain ⟨named, still, -⟩ := @Bridge.passOn_dimension Unit reader .clientbound packet handled
    rw [← same] at moved kept
    simp only [inv, lastDimension_append, lastDimension_singleton, named, still, kept, moved, here]
    cases value.dimension? <;> rfl

end Session

/-! ## The two dimensions of a transfer -/

/-- No dimension is named by an event that is only seen. -/
theorem lastDimension_undropped {reader : Version} {packets : List BatchPacket}
    (genuine : ∀ packet ∈ packets, packet.IsGenuine) :
    lastDimension reader (packets.filter fun packet => !Waiting.isDropped packet) =
      lastDimension reader packets := by
  have silent (packet : BatchPacket) (real : packet.IsGenuine)
      (dropped : Waiting.isDropped packet = true) : packet.dimension? reader = none := by
    have kind : packet.header.id = PacketId.levelEventGeneric := by
      simpa [Waiting.isDropped] using dropped
    unfold BatchPacket.dimension?
    cases decoded : packet.decode reader with
    | error fault => rfl
    | ok value =>
      have same := real reader value decoded
      rw [kind] at same
      refine Packet.dimension?_of_id ?_ ?_ <;> rw [same] <;> decide
  induction packets with
  | nil => rfl
  | cons packet packets ih =>
    obtain ⟨here, others⟩ := List.forall_mem_cons.mp genuine
    show _ = lastDimension reader ([packet] ++ packets)
    rw [lastDimension_append, lastDimension_singleton]
    cases dropped : Waiting.isDropped packet with
    | false =>
      rw [List.filter_cons_of_pos (by simp [dropped])]
      show lastDimension reader ([packet] ++ _) = _
      rw [lastDimension_append, lastDimension_singleton, ih others]
    | true =>
      rw [List.filter_cons_of_neg (by simp [dropped]), silent packet here dropped, Option.or_none,
        ih others]

/-- The dimension on the way is neither of the two. -/
theorem Dimension.other_ne (current target : Int32) :
    other current target ≠ current ∧ other current target ≠ target := by
  unfold other
  cases found : all.find? fun dimension => dimension ≠ current && dimension ≠ target with
  | some dimension => simpa using List.find?_some found
  | none =>
    have taken (dimension : Int32) (mem : dimension ∈ all) :
        dimension = current ∨ dimension = target := by
      have outside := List.find?_eq_none.mp found dimension mem
      exact Decidable.or_iff_not_imp_left.mpr (by simpa using outside)
    -- Three dimensions, and only two of them are taken.
    rcases taken 0 (by decide) with first | first <;>
      rcases taken 1 (by decide) with second | second <;>
      rcases taken 2 (by decide) with third | third
    all_goals
      first
      | exact absurd (first.trans second.symm) (by decide)
      | exact absurd (first.trans third.symm) (by decide)
      | exact absurd (second.trans third.symm) (by decide)

namespace Session

variable {session : Session} {batch : Batch} {reader : Version} {frame : Bytes}
  {pending : PendingBackend}

/-- What a frame of a new backend brings for the client names the dimensions that its packets
name. -/
theorem arrivals_dimension (met : session.pending = some pending)
    (decoded : (pending.peer.connection.decode frame).1 = .ok batch) :
    lastDimension reader (session.arrivals frame) =
      lastDimension reader (session.fromPending pending batch).batch.packets := by
  simp only [arrivals, met, decoded, ← fromPending_packets]
  exact lastDimension_undropped (Bridge.process_genuine Handler.arrival_unchanged
    (Connection.decode_received decoded))

/-- Whether a transfer that the client is to leave for goes by way of the dimension that the client
is sent to, and is bound for where the new backend has sent the player last. -/
def Aims (session : Session) : Prop :=
  ∀ transfer, session.player.transfer = some transfer → transfer.phase = .departing →
    transfer.temporaryDimension = session.player.dimension ∧
      ∃ origin, transfer.temporaryDimension ≠ origin ∧
        ∀ reader, transfer.targetDimension = (lastDimension reader session.held).getD origin

/-- A new backend that sends on for a transfer. -/
theorem aims_of_waited {transfer : Transfer} (aims : session.Aims) (sound : session.Sound)
    (met : session.pending = some pending) (game : pending.arrival.started = true)
    (decoded : (pending.peer.connection.decode frame).1 = .ok batch)
    (moving : (session.keptFromPending pending batch).1.transfer = some transfer) :
    transfer.temporaryDimension = session.player.dimension ∧
      ∃ origin, transfer.temporaryDimension ≠ origin ∧ ∀ reader, transfer.targetDimension =
        (lastDimension reader (session.held ++ session.arrivals frame)).getD origin := by
  obtain ⟨base, waiting, began, rfl⟩ := Work.keptFromPending_transfer moving
  have aimed (reader : Version) := @Bridge.process_arrival_aim pending.peer.connection.version
    reader batch session.player pending.arrival game (Connection.decode_received decoded)
  obtain ⟨before, there, away⟩ := sound.departing met game
  obtain ⟨bound, origin, other, last⟩ := aims before there away
  have turned (reader : Version) : base = before.toDimension ((lastDimension reader
      (session.fromPending pending batch).batch.packets).getD before.targetDimension) := by
    have here := (aimed reader).symm.trans began
    rw [there] at here
    exact (Option.some.inj here).symm
  have same : base.temporaryDimension = before.temporaryDimension := by
    rw [turned pending.peer.connection.version]
    rfl
  refine ⟨same.trans bound, origin, same ▸ other, fun reader => ?_⟩
  show base.targetDimension = _
  rw [lastDimension_append, arrivals_dimension met decoded, turned reader]
  show (lastDimension reader (session.fromPending pending batch).batch.packets).getD
    before.targetDimension = _
  rw [last reader]
  cases lastDimension reader (session.fromPending pending batch).batch.packets <;> rfl

/-- A new backend that spawns the player for a transfer. -/
theorem aims_of_sentAway {transfer : Transfer} (sound : session.Sound)
    (spawns : session.Spawns frame pending batch)
    (moving : (session.keptFromPending pending batch).1.transfer = some transfer) :
    ∃ origin, transfer.temporaryDimension ≠ session.player.dimension ∧
      transfer.temporaryDimension ≠ origin ∧ ∀ reader, transfer.targetDimension =
        (lastDimension reader (session.held ++ session.arrivals frame)).getD origin := by
  obtain ⟨base, waiting, began, rfl⟩ := Work.keptFromPending_transfer moving
  obtain ⟨start, rest, among, player, packets⟩ := spawns.crossed
  have nothing : session.held = [] := held_of_none (spawns.unmoved sound)
  have received : ∀ packet ∈ ({ batch with packets := rest } : Batch).packets,
      packet.decoded = none :=
    fun packet mem => Connection.decode_received spawns.decoded packet (among mem)
  have turned (reader : Version) : base = (Transfer.start pending.arrival.source
      pending.arrival.target session.player.dimension start.dimension
        pending.arrival.limits).toDimension ((lastDimension reader
        (session.fromPending pending batch).batch.packets).getD start.dimension) := by
    have aimed := @Bridge.process_arrival_aim pending.peer.connection.version reader
      { batch with packets := rest } (pending.arrival.spawn session.player start)
      { pending.arrival with started := true } rfl received
    rw [player, aimed, ← packets] at began
    exact (Option.some.inj began).symm
  obtain ⟨current, goal⟩ := Dimension.other_ne session.player.dimension start.dimension
  have same : base.temporaryDimension =
      Dimension.other session.player.dimension start.dimension := by
    rw [turned pending.peer.connection.version]
    rfl
  refine ⟨start.dimension, fun eq => current (same.symm.trans eq),
    fun eq => goal (same.symm.trans eq), fun reader => ?_⟩
  show base.targetDimension = _
  rw [nothing, List.nil_append, arrivals_dimension spawns.met spawns.decoded, turned reader]
  rfl

/-- A move leaves the transfer bound for where the new backend has sent the player last. -/
theorem move_aims (session : Session) (move : Move) (sound : session.Sound)
    (aims : session.Aims) : (session.move move).1.Aims := by
  intro transfer moving away
  have locked := Player.locked_of_departing moving away
  have held := (move_leavesLocked sound locked).held
  cases move with
  | push packet => exact aims transfer moving away
  | event event =>
    rcases handle_learns event sound with
      ⟨player, batches, learns, -, remains⟩ | ⟨ended, -⟩
    · have onward : player.transfer = some transfer := by
        rcases remains.transfer with ended | same
        · cases ended.symm.trans moving
        · exact same.symm.trans moving
      cases learns with
      | nothing still =>
        obtain ⟨way, origin, other, target⟩ := aims transfer onward away
        refine ⟨way.trans remains.dimension.symm, origin, other, fun reader => ?_⟩
        rw [held, still, List.append_nil]
        exact target reader
      | relayed on free decoded =>
        have same : session.player.transfer = some transfer := process_backend.1.symm.trans onward
        simp [Player.isLocked, same, Transfer.isLocked, away] at free
      | waited met game decoded =>
        obtain ⟨way, origin, other, target⟩ := aims_of_waited aims sound met game decoded onward
        refine ⟨?_, origin, other, fun reader => ?_⟩
        · exact way.trans (keptFromPending_dimension.symm.trans remains.dimension.symm)
        · rw [held]
          exact target reader
      | refused spawns refuses => cases onward
      | sentAway spawns accepts opened there =>
        cases there.symm.trans onward
        obtain ⟨origin, -, other, target⟩ := aims_of_sentAway sound spawns there
        refine ⟨remains.dimension.symm, origin, other, fun reader => ?_⟩
        rw [held]
        exact target reader
      | left => cases onward; cases away
    · have still := (move_coherent session (.event event) sound.coherent).of_over ended
      cases still.symm.trans moving

/-- After every run a transfer that the client is to leave for is bound for where the new backend
has sent the player last. -/
theorem play_aims (login : LoginData) (services : SessionServices) (client : Connection)
    (initial : Server) (moves : List Move) :
    ((start login services client initial).1.play moves).1.Aims := by
  refine (play_keeps (fun session => session.Sound ∧ session.Aims) ?_ moves ⟨?_, ?_⟩).2
  · rintro session move ⟨sound, aims⟩
    exact ⟨move_sound session move sound, move_aims session move sound aims⟩
  · exact play_sound login services client initial []
  · rintro transfer ⟨⟩

/-- What the client is told when it has left names the dimension that it is to go on to, unless it
is there already. -/
theorem filterMap_arrivalPackets {player : Player} {transfer : Transfer} :
    (player.arrivalPackets transfer).filterMap Packet.dimension? =
      if transfer.targetDimension = transfer.temporaryDimension then []
      else [transfer.targetDimension] := by
  unfold Player.arrivalPackets
  dsimp only
  split <;> rfl

/-- After every run, for a transfer that the client is to leave for: its two dimensions are the same
exactly where the new backend, by what waits, has sent the player into the dimension on the way.
When the client says that it has left, it hears its arrival packets first, and what has waited. They
send it into the dimension that the transfer is bound for where the two differ, and nowhere where
they are the same. No other batch that overtakes the queue tells the client where it is, and that of
the arrival packets stands in front of all that it hears. -/
theorem play_secondChange (login : LoginData) (services : SessionServices) (client : Connection)
    (initial : Server) (moves : List Move) (version : Version) (transfer : Transfer)
    (moving : ((start login services client initial).1.play moves).1.player.transfer =
      some transfer)
    (away : transfer.phase = .departing) :
    let session := ((start login services client initial).1.play moves).1
    let sentBack := lastDimension version transfer.waiting.packets =
      some transfer.temporaryDimension
    (transfer.targetDimension = transfer.temporaryDimension ↔ sentBack) ∧
      ∀ frame, session.askedByClient frame ≠ [] → session.client.isOpen = true →
        let next := session.move (.event (.client (some frame)))
        let arrival := (session.playerAfterClient frame).arrivalPackets transfer
        (∃ stream, heardOn LinkId.isClient next.2 = arrival.map BatchPacket.made ++ stream ∧
          Amid transfer.waiting.packets stream) ∧
        (∀ front batch back, heardBatches next.2 = front ++ batch :: back →
          batch.skipQueue = true → (∃ packet ∈ batch.packets, ¬packet.IsPlain) →
          front = [] ∧ batch = Batch.ahead arrival) ∧
        (transfer.targetDimension = transfer.temporaryDimension →
          arrival.filterMap Packet.dimension? = []) ∧
        (transfer.targetDimension ≠ transfer.temporaryDimension →
          arrival.filterMap Packet.dimension? = [transfer.targetDimension]) ∧
        next.1.player.isLocked = false := by
  intro session sentBack
  have sound : session.Sound := play_sound login services client initial moves
  obtain ⟨-, origin, other, target⟩ :=
    play_aims login services client initial moves transfer moving away
  have same : transfer.targetDimension = transfer.temporaryDimension ↔ sentBack := by
    have last := target version
    rw [held_of_locked moving away] at last
    simp only [sentBack]
    rw [last]
    cases lastDimension version transfer.waiting.packets with
    | none => simpa using Ne.symm other
    | some dimension => simp
  refine ⟨same, fun frame left opened => ?_⟩
  intro next arrival
  have locked : session.player.isLocked = true := Player.locked_of_departing moving away
  obtain ⟨-, pending, _, met, there, -⟩ := sound.coherent.of_locked locked
  obtain ⟨handsOver, stays⟩ := move_handsOver sound met moving away left
  obtain ⟨more, stream, grown, heard, waited, -⟩ := handsOver.heard
  have grown : next.2 = more := grown
  have told : session.ifOpen (arrival.map BatchPacket.made) = arrival.map BatchPacket.made :=
    if_pos opened
  have passed : session.ifOpen transfer.waiting.packets = transfer.waiting.packets :=
    if_pos opened
  refine ⟨⟨stream, ?_, ?_⟩, ?_, fun equal => ?_, fun differ => ?_, stays.free⟩
  · rw [grown, ← told]
    exact heard
  · rw [← passed]
    exact waited
  · rintro front batch back split ahead ⟨packet, mem, telling⟩
    obtain ⟨leading, directs⟩ := handle_directs sound split ahead mem telling
    exact ⟨leading, directs.onward_eq moving⟩
  · rw [filterMap_arrivalPackets, if_pos equal]
  · rw [filterMap_arrivalPackets, if_neg differ]

/-- A player that is moved to the survival server. -/
theorem play_secondChange_survival :
    let session := (Sample.session.play (Sample.moving ++ [Sample.spawning])).1
    ∃ transfer, session.player.transfer = some transfer ∧ transfer.phase = .departing ∧
      transfer.targetDimension ≠ transfer.temporaryDimension ∧
      session.askedByClient Sample.acknowledged ≠ [] ∧ session.client.isOpen = true ∧
      let arrival := (session.playerAfterClient Sample.acknowledged).arrivalPackets transfer
      (∃ stream, heardOn LinkId.isClient
          (session.move (.event (.client (some Sample.acknowledged)))).2 =
          arrival.map BatchPacket.made ++ stream) ∧
        arrival.filterMap Packet.dimension? = [transfer.targetDimension] := by
  intro session
  have phase : session.player.transfer.map (fun transfer =>
      (transfer.phase, lastDimension .v712 transfer.waiting.packets)) =
      some (.departing, none) := by decide +kernel
  obtain ⟨transfer, moving, same⟩ := Option.map_eq_some_iff.mp phase
  obtain ⟨away, waits⟩ := Prod.mk.inj same
  have left : session.askedByClient Sample.acknowledged ≠ [] := by decide +kernel
  have opened : session.client.isOpen = true := by decide +kernel
  obtain ⟨differs, onward⟩ := play_secondChange _ _ _ _ (Sample.moving ++ [Sample.spawning]) .v712
    transfer moving away
  have on : ¬lastDimension .v712 transfer.waiting.packets =
      some transfer.temporaryDimension := by
    rw [waits]
    simp
  have bound : transfer.targetDimension ≠ transfer.temporaryDimension := mt differs.mp on
  obtain ⟨⟨stream, heard, -⟩, -, -, goes, -⟩ := onward Sample.acknowledged left opened
  exact ⟨transfer, moving, away, bound, left, opened, ⟨stream, heard⟩, goes bound⟩

/-- The survival server sends the player into dimension 1, by way of which the transfer goes. When
the client says that it has left, the proxy sends it nowhere. -/
theorem change_omitted :
    let change : ChangeDimension := ⟨1, Vector.zero, false, none⟩
    let session := (Sample.session.play (Sample.moving ++ [Sample.spawning,
      .event (.pending (some (Sample.frame [.changeDimension change])))])).1
    let next := session.move (.event (.client (some Sample.acknowledged)))
    session.player.transfer.map (fun transfer =>
        (transfer.phase, transfer.temporaryDimension, transfer.targetDimension)) =
      some (.departing, 1, 1) ∧
    session.client.isOpen = true ∧ session.askedByClient Sample.acknowledged ≠ [] ∧
    next.1.isArriving = true ∧
    (heardBatches next.2).all (fun batch => !batch.skipQueue ||
      batch.packets.all fun packet => !packet.isChange) = true := by
  decide +kernel

end Session

end Ferry
