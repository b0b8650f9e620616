import Ferry.Proofs.Transfer.Destination
import Ferry.Proofs.Session.ClientDirections

/-!
# Where the client is

As long as nobody else sends packets to the client, the proxy knows in which dimension the client
is, whoever has sent it there. So it never sends the client into the dimension that it is in. But
a client that is sent anywhere must have been spawned first, and about that the proxy does not care.
-/

namespace Ferry

/-- Whether a packet starts the game of the client that hears it. -/
def BatchPacket.isStart (packet : BatchPacket) : Bool := packet.header.id = PacketId.startGame

/-! ## Directions -/

section Directions

variable {session : Session} {event : Event} {batch : Batch} {version : Version}

/-- What takes all that the old backend has shown from the client moves it nowhere. -/
theorem Scene.filterMap_teardown {scene : Scene} :
    scene.teardown.filterMap Packet.dimension? = [] := by
  rw [List.filterMap_eq_nil_iff]
  unfold teardown
  intro packet mem
  simp only [List.mem_append, List.mem_map] at mem
  rcases mem with (⟨link, -, rfl⟩ | ⟨uniqueId, -, rfl⟩) | mem
  · rfl
  · rfl
  · split at mem
    · cases mem
    · cases List.mem_singleton.mp mem
      rfl

/-- Sending the client away changes its dimension. -/
theorem departureBatch_changes {pending : PendingBackend} {transfer : Transfer} :
    ∃ packet ∈ (session.departureBatch pending batch transfer).packets,
      packet.isChange = true := by
  have once := @Player.countP_departurePackets (session.keptFromPending pending batch).1 transfer
  obtain ⟨value, mem, changes⟩ := List.countP_pos_iff.mp (once ▸ Nat.one_pos)
  exact ⟨.made value, List.mem_map.mpr ⟨value, List.mem_append_right _ mem, rfl⟩, changes⟩

/-- To leave, a client goes into the temporary dimension. -/
theorem filterMap_departurePackets {player : Player} {transfer : Transfer} :
    (player.departurePackets transfer).filterMap Packet.dimension? =
      [transfer.temporaryDimension] := rfl

/-- The dimensions that are named by packets of the proxy that overtake the queue. -/
theorem filterMap_ahead {packets : List Packet} :
    (Batch.ahead packets).packets.filterMap (BatchPacket.dimension? version) =
      packets.filterMap Packet.dimension? := filterMap_dimension?_made

/-- A client that has left is in the temporary dimension. -/
theorem lastDimension_departureBatch {pending : PendingBackend} {transfer : Transfer} :
    lastDimension version (session.departureBatch pending batch transfer).packets =
      some transfer.temporaryDimension := by
  unfold lastDimension Session.departureBatch
  rw [filterMap_ahead, List.filterMap_append, Scene.filterMap_teardown,
    filterMap_departurePackets]
  rfl

/-- A batch that sends the client on names at most one dimension, and never the one that the player
is in. -/
theorem Session.Directs.elsewhere (directs : session.Directs event batch) (sound : session.Sound)
    (aims : session.Aims) (version : Version) :
    (batch.packets.filterMap (BatchPacket.dimension? version)).length ≤ 1 ∧
      ∀ dimension ∈ batch.packets.filterMap (BatchPacket.dimension? version),
        dimension ≠ session.player.dimension := by
  cases directs with
  | out spawns accepts opened moving away =>
    obtain ⟨origin, differs, -⟩ := aims_of_sentAway sound spawns moving
    unfold Session.departureBatch
    rw [filterMap_ahead, List.filterMap_append, Scene.filterMap_teardown,
      filterMap_departurePackets, List.nil_append]
    exact ⟨Nat.le_refl 1, List.forall_mem_singleton.mpr differs⟩
  | @onward _ _ transfer met moving away said opened =>
    rw [filterMap_ahead, filterMap_arrivalPackets]
    split
    next same => simp
    next differs =>
      refine ⟨Nat.le_refl 1, List.forall_mem_singleton.mpr ?_⟩
      rw [← (aims transfer moving away).1]
      exact differs

/-- Sending the client on changes its dimension once, from the one that the player is in. -/
theorem Session.Directs.differs (directs : session.Directs event batch) (sound : session.Sound)
    (aims : session.Aims) {front back : List BatchPacket} {change : BatchPacket}
    {dimension : Int32} (split : batch.packets = front ++ change :: back)
    (names : change.dimension? version = some dimension) :
    lastDimension version front = none ∧ dimension ≠ session.player.dimension := by
  obtain ⟨few, elsewhere⟩ := directs.elsewhere sound aims version
  rw [split, List.filterMap_append, List.filterMap_cons_some names] at few elsewhere
  refine ⟨?_, elsewhere dimension (by simp)⟩
  have unnamed : front.filterMap (BatchPacket.dimension? version) = [] := by
    simp only [List.length_append, List.length_cons] at few
    exact List.eq_nil_of_length_eq_zero (by omega)
  unfold lastDimension
  rw [unnamed]
  rfl

end Directions

/-! ## What is learned of the dimension -/

namespace Session

variable {session : Session} {event : Event} {version : Version}

/-- What has been queued by nobody. -/
theorem queuedBatch_of_bare {queue : OutboundQueue} (bare : queue.packets = []) :
    queue.queuedBatch = [] := by
  simp [OutboundQueue.queuedBatch, bare]

/-- As long as nobody else sends packets to the client, chatter says nothing of a dimension. -/
theorem lastDimension_chatter {talk : List Batch}
    (chatter : ∀ batch ∈ talk, batch.IsChatter []) :
    lastDimension version (talk.flatMap Batch.packets) = none := by
  refine lastDimension_of_none ?_
  intro packet mem
  obtain ⟨batch, among, inside⟩ := List.mem_flatMap.mp mem
  rcases (chatter batch among).packets packet inside with queued | plain
  · cases queued
  · exact plain.dimension?

/-- The player is in the dimension that the client is sent into last. -/
theorem Learns.dimension {player : Player} {batches : List Batch}
    (learns : session.Learns event player batches) (aims : session.Aims)
    (bare : session.client.queue.packets = []) (version : Version) :
    player.dimension =
      (lastDimension version (batches.flatMap Batch.packets)).getD session.player.dimension := by
  have unqueued := queuedBatch_of_bare bare
  cases learns with
  | nothing => rfl
  | @relayed frame backend batch on free decoded =>
    have packets : (session.relayedBatches backend batch).flatMap Batch.packets =
        (session.fromBackend backend batch).batch.packets := by
      unfold relayedBatches
      simp only [unqueued]
      split
      next empty => simpa using (List.isEmpty_iff.mp empty).symm
      next => simp
    rw [packets]
    exact fromBackend_dimension (Connection.decode_received decoded)
  | waited => exact keptFromPending_dimension
  | refused => exact keptFromPending_dimension
  | sentAway spawns accepts opened moving away =>
    rw [List.flatMap_singleton, lastDimension_departureBatch]
    rfl
  | @left frame pending transfer met moving away said opened =>
    obtain ⟨way, origin, other, target⟩ := aims transfer moving away
    rw [arrivalBatches_packets moving away, unqueued, ite_self, List.flatMap_nil, List.nil_append,
      lastDimension_append]
    show transfer.targetDimension = _
    rw [target version]
    cases last : lastDimension version session.held with
    | some dimension => rfl
    | none =>
      have aimed : transfer.targetDimension = origin := by rw [target version, last]; rfl
      have onward : lastDimension version
          (Batch.ahead ((session.playerAfterClient frame).arrivalPackets transfer)).packets =
          some origin := by
        unfold lastDimension
        rw [filterMap_ahead, filterMap_arrivalPackets, aimed, if_neg (Ne.symm other)]
        rfl
      rw [onward]
      rfl

/-- What is known about where the client is, as long as nobody else sends packets to it. -/
structure Located (session : Session) (version : Version) (heard : List BatchPacket) : Prop where
  sound : session.Sound
  aims : session.Aims
  bare : session.client.queue.packets = []
  there : session.stage = .over ∨ ∀ dimension, lastDimension version heard = some dimension →
    session.player.dimension = dimension

/-- An event leaves known where the client is. -/
theorem handle_located {heard : List BatchPacket} (event : Event)
    (located : session.Located version heard) :
    (session.handle event).1.Located version
      (heard ++ heardOn LinkId.isClient (session.handle event).2) := by
  obtain ⟨sound, aims, bare, there⟩ := located
  have next : (session.handle event).1.Sound := move_sound session (.event event) sound
  have onward : (session.handle event).1.Aims := move_aims session (.event event) sound aims
  have empty {batches : List Batch} (hears : SessionTurn.Hears ⟨session, []⟩ batches
      ⟨(session.handle event).1, (session.handle event).2⟩) :
      (session.handle event).1.client.queue.packets = [] := by
    obtain ⟨talk, sends, -⟩ := hears
    have among := sends.queue
    rw [bare] at among
    exact List.subset_nil.mp among
  rcases handle_learns event sound with ⟨player, batches, learns, hears, remains⟩ | ⟨ended, heard⟩
  · refine ⟨next, onward, empty hears, ?_⟩
    rcases there with ended | there
    · exact .inl (handle_stage_over ended)
    · right
      obtain ⟨talk, sends, chatter⟩ := hears
      obtain ⟨more, grown, told⟩ := sends.heard
      have grown : (session.handle event).2 = more := grown
      have silent : lastDimension version (talk.flatMap Batch.packets) = none :=
        lastDimension_chatter fun batch mem => bare ▸ chatter batch mem
      intro dimension last
      rw [heardOn_isClient, grown, told, List.flatMap_append, lastDimension_append,
        lastDimension_append, silent, Option.none_or] at last
      rw [remains.dimension, learns.dimension aims bare version]
      cases moved : lastDimension version (batches.flatMap Batch.packets) with
      | none =>
        rw [moved, Option.none_or] at last
        exact there dimension last
      | some there =>
        rw [moved] at last
        exact Option.some.inj last
  · obtain ⟨batches, -, hears⟩ := heard
    exact ⟨next, onward, empty hears, .inl ended⟩

/-- Events in a row are a run in which nobody sends packets to the client. -/
theorem play_events {events : List Event} :
    session.play (events.map Move.event) = session.run events := by
  induction events generalizing session with
  | nil => rfl
  | cons event events ih => simp [play, run, move, ih]

/-- What is known all along a run in which nobody sends packets to the client. -/
theorem play_located {events : List Event} (began : session.Located version [])
    (earlier later : List Move) (split : events.map Move.event = earlier ++ later) :
    (session.play earlier).1.Located version
      (heardOn LinkId.isClient (session.play earlier).2) := by
  refine play_traces (fun session heard => session.Located version heard) began ?_ earlier later
    split
  intro earlier move later split before heard there
  obtain ⟨event, -, rfl⟩ := List.mem_map.mp (show move ∈ events.map Move.event by simp [split])
  exact handle_located event there

/-- As long as the client is sent nothing by others, the player is in the dimension that the client
was sent into last, unless the session is over; and whenever the proxy sends the client on into a
dimension, the client is in another one. -/
theorem run_whereabouts (login : LoginData) (services : SessionServices) (client : Connection)
    (initial : Server) (events : List Event) (version : Version) :
    let session := ((start login services client initial).1.run events).1
    let outputs := ((start login services client initial).1.run events).2
    (session.stage = .over ∨ ∀ dimension,
      lastDimension version (heardOn LinkId.isClient outputs) = some dimension →
        session.player.dimension = dimension) ∧
    ∀ ahead batch behind, heardBatches outputs = ahead ++ batch :: behind →
      batch.skipQueue = true →
      ∀ front change back, batch.packets = front ++ change :: back →
      ∀ dimension, change.dimension? version = some dimension →
      ∀ before, lastDimension version (ahead.flatMap Batch.packets ++ front) = some before →
        dimension ≠ before := by
  intro session outputs
  have fresh : (start login services client initial).1.Located version [] :=
    ⟨play_sound login services client initial [], play_aims login services client initial [], rfl,
      .inr (by simp)⟩
  have located := @play_located _ version events fresh
  refine ⟨?_, ?_⟩
  · have there := (located _ [] (List.append_nil _).symm).there
    rw [play_events] at there
    exact there
  · intro ahead batch behind split overtakes front change back packets dimension names before last
    have whole : heardBatches ((start login services client initial).1.play
        (events.map Move.event)).2 = ahead ++ batch :: behind := by
      rw [play_events]
      exact split
    have telling : ¬change.IsPlain := fun plain => by cases names.symm.trans plain.dimension?
    obtain ⟨earlier, event, later, moves, rfl, directs⟩ :=
      play_directs (play_sound login services client initial []) whole overtakes
        (by simp [packets]) telling
    obtain ⟨sound, aims, -, there⟩ := located earlier _ moves
    obtain ⟨unnamed, differs⟩ := directs.differs sound aims packets names
    rw [← heardOn_isClient, lastDimension_append, unnamed, Option.none_or] at last
    rcases there with ended | there
    · cases ended.symm.trans (directs.playing sound)
    · rw [← there before last]
      exact differs

/-! ## Clients that have not been spawned -/

/-- A transfer starts with a frame that sends the client away. -/
theorem Learns.transfer {player : Player} {batches : List Batch}
    (learns : session.Learns event player batches) (sound : session.Sound)
    (moving : player.transfer.isSome = true) : session.player.transfer.isSome = true ∨
      ∃ frame, event = .pending (some frame) ∧ session.SendsAway frame := by
  cases learns with
  | nothing => exact .inl moving
  | relayed on free decoded =>
    left
    rw [← process_backend.1]
    exact moving
  | waited met game decoded =>
    left
    obtain ⟨transfer, there, -⟩ := sound.departing met game
    rw [there]
    rfl
  | refused => cases moving
  | sentAway spawns accepts opened => exact .inr ⟨_, rfl, opened, _, _, spawns, accepts⟩
  | left met there =>
    left
    rw [there]
    rfl

/-- A transfer that is in progress after a move was in progress before, or has started with it. -/
theorem move_transfer (move : Move) (sound : session.Sound)
    (moving : (session.move move).1.player.transfer.isSome = true) :
    session.player.transfer.isSome = true ∨
      ∃ frame, move = .event (.pending (some frame)) ∧ session.SendsAway frame := by
  cases move with
  | push packet => exact .inl moving
  | event event =>
    rcases handle_learns event sound with ⟨player, batches, learns, -, remains⟩ | ⟨ended, -⟩
    · have onward : player.transfer.isSome = true := by
        rcases remains.transfer with ended | same
        · simp only [Session.move] at moving
          rw [ended] at moving
          cases moving
        · rw [← same]
          exact moving
      rcases learns.transfer sound onward with before | ⟨frame, rfl, away⟩
      · exact .inl before
      · exact .inr ⟨frame, rfl, away⟩
    · have still := (move_coherent session (.event event) sound.coherent).of_over ended
      rw [still] at moving
      cases moving

/-- All along a run, whoever is being transferred has been spawned, if all that were sent away had
been. -/
theorem play_spawned {moves : List Move} (sound : session.Sound)
    (still : session.player.transfer = none)
    (spawned : ∀ earlier frame later,
      moves = earlier ++ .event (.pending (some frame)) :: later →
      (session.play earlier).1.SendsAway frame →
        ∃ packet ∈ heardOn LinkId.isClient (session.play earlier).2, packet.isStart = true)
    (earlier later : List Move) (split : moves = earlier ++ later)
    (moving : (session.play earlier).1.player.transfer.isSome = true) :
    ∃ packet ∈ heardOn LinkId.isClient (session.play earlier).2, packet.isStart = true := by
  refine play_traces (fun session heard => session.player.transfer.isSome = true →
    ∃ packet ∈ heard, packet.isStart = true) ?_ ?_ earlier later split moving
  · intro moving
    rw [still] at moving
    cases moving
  · intro earlier move later split before heard there moving
    refine Exists.imp (fun packet => And.imp_left (List.mem_append_left _)) ?_
    rcases move_transfer move (sound_play earlier sound) moving with onward | ⟨frame, rfl, away⟩
    · exact there onward
    · exact spawned earlier frame later split away

/-- After every run: no change of dimension that the proxy has made has reached the client before a
packet that starts the game, exactly where such a packet had reached it before each frame with which
a new backend has sent it away. -/
theorem play_spawnedFirst (login : LoginData) (services : SessionServices) (client : Connection)
    (initial : Server) (moves : List Move) :
    let base := (start login services client initial).1
    (∀ ahead batch behind, heardBatches (base.play moves).2 = ahead ++ batch :: behind →
      batch.skipQueue = true → (∃ packet ∈ batch.packets, packet.isChange = true) →
        ∃ packet ∈ ahead.flatMap Batch.packets, packet.isStart = true) ↔
    ∀ earlier frame later, moves = earlier ++ .event (.pending (some frame)) :: later →
      (base.play earlier).1.SendsAway frame →
        ∃ packet ∈ heardOn LinkId.isClient (base.play earlier).2, packet.isStart = true := by
  intro base
  have began : base.Sound := play_sound login services client initial []
  have sound (earlier : List Move) : (base.play earlier).1.Sound := sound_play earlier began
  constructor
  · rintro spawned earlier frame later rfl ⟨opened, pending, batch, spawns, accepts⟩
    obtain ⟨transfer, -, talk, sends, -⟩ :=
      handle_sendsAway (sound earlier) spawns accepts opened
    obtain ⟨more, grown, heard⟩ := sends.heard
    have told : heardBatches ((base.play earlier).1.move (.event (.pending (some frame)))).2 =
        [] ++ (base.play earlier).1.departureBatch pending batch transfer :: talk := by
      rw [← List.singleton_append, List.nil_append, ← heard]
      exact congrArg heardBatches grown
    obtain ⟨packet, mem, starts⟩ := spawned _ _ _
      (heardBatches_play.mpr ⟨earlier, _, later, [], talk, rfl, told, rfl, rfl⟩) rfl
      departureBatch_changes
    rw [List.append_nil, ← heardOn_isClient] at mem
    exact ⟨packet, mem, starts⟩
  · rintro spawned ahead batch behind split overtakes ⟨change, mem, changes⟩
    have telling : ¬change.IsPlain := fun plain => by cases changes.symm.trans plain.isChange
    obtain ⟨earlier, event, later, moves, rfl, directs⟩ :=
      play_directs began split overtakes mem telling
    rw [← heardOn_isClient]
    cases directs with
    | out spawns accepts opened =>
      exact spawned earlier _ later moves ⟨opened, _, _, spawns, accepts⟩
    | onward met there => exact play_spawned began rfl spawned earlier _ moves (by rw [there]; rfl)

/-- The survival server spawns the player before the lobby does: the first that the client hears is
that it is sent away. -/
theorem sent_unspawned :
    ∃ batch behind, heardBatches (Sample.session.play (Sample.moving ++ [Sample.spawning])).2 =
        batch :: behind ∧
      batch.skipQueue = true ∧ ∃ packet ∈ batch.packets, packet.isChange = true := by
  have first : (heardBatches (Sample.session.play
      (Sample.moving ++ [Sample.spawning])).2).head?.any (fun batch =>
        batch.skipQueue && batch.packets.any BatchPacket.isChange) = true := by decide +kernel
  obtain ⟨batch, head, told⟩ := (Option.any_eq_true _ _).mp first
  obtain ⟨behind, split⟩ := List.head?_eq_some_iff.mp head
  obtain ⟨overtakes, changes⟩ := Bool.and_eq_true_iff.mp told
  exact ⟨batch, behind, split, overtakes, List.any_eq_true.mp changes⟩

end Session

end Ferry
