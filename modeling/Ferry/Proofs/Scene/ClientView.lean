import Ferry.Proofs.Session.ClientDirections
import Ferry.Proofs.Scene.Record
import Ferry.Proofs.Transfer.Destination

/-!
# What the client shows

The record of what the client shows covers all that it shows, and what waits for it. When the
client is sent away, all of that is taken from it, and it shows nothing until it has left the old
backend. But a backend that refuses the player and spawns it in one batch has the record cleared,
and nothing is taken from the client.
-/

namespace Ferry

namespace Session

variable {session : Session} {version : Version} {heard : List BatchPacket} {frame : Bytes}
  {pending : PendingBackend} {batch : Batch} {event : Event}

/-! ## Batches -/

/-- What the backend that the client is on shows is recorded. -/
theorem fromBackend_covers {backend : Backend}
    (decoded : (backend.peer.connection.decode frame).1 = .ok batch)
    (covers : session.player.scene.Covers version heard) :
    (session.fromBackend backend batch).player.scene.Covers version
      (heard ++ (session.fromBackend backend batch).batch.packets) := by
  refine @Bridge.process_covers Unit (Handler.backend backend.server) _ _ _ _ _ (fun _ => True) _
    ?_ trivial (Connection.decode_received decoded) covers
  intro _ player id value _ same
  obtain ⟨kept, -, scene, -⟩ := @Bridge.handle_backend player backend.server id value same
  exact ⟨kept, trivial, scene⟩

/-- What a new backend shows that has spawned the player is recorded. -/
theorem process_arrival_covers {reader : Version} {player : Player} {arrival : Arrival}
    (game : arrival.started = true) (received : ∀ packet ∈ batch.packets, packet.decoded = none)
    (covers : player.scene.Covers version heard) :
    let result := Bridge.process Handler.arrival .clientbound reader arrival player batch
    result.player.scene.Covers version (heard ++ result.batch.packets) := by
  refine @Bridge.process_covers Arrival Handler.arrival _ _ _ _ _
    (fun state => state.started = true) _ ?_ game received covers
  intro state player id value started same
  obtain ⟨kept, still, scene, -⟩ := @Bridge.handle_arrival player state id value started same
  exact ⟨kept, by rw [still]; exact started, scene⟩

/-- Keeping what a new backend brings leaves the record that its batch has led to. -/
theorem keptFromPending_scene : (session.keptFromPending pending batch).1.scene =
    (session.fromPending pending batch).player.scene := by
  unfold keptFromPending
  dsimp only
  split
  · rw [Work.keepWaiting_player]
  · rfl

/-- What a new backend brings for the client is what is let through, but for events that are only
seen. -/
theorem arrivals_eq (met : session.pending = some pending)
    (decoded : (pending.peer.connection.decode frame).1 = .ok batch) :
    session.arrivals frame = (session.fromPending pending batch).batch.packets.filter
      fun packet => !Waiting.isDropped packet := by
  simp only [arrivals, met, decoded, fromPending_packets]

/-- What has waited and what a new backend brings is recorded. -/
theorem waited_covers (met : session.pending = some pending)
    (game : pending.arrival.started = true)
    (decoded : (pending.peer.connection.decode frame).1 = .ok batch)
    (covers : session.player.scene.Covers version heard) :
    (session.keptFromPending pending batch).1.scene.Covers version
      (heard ++ session.arrivals frame) := by
  have received := Connection.decode_received decoded
  rw [keptFromPending_scene, arrivals_eq met decoded]
  exact Scene.Covers.undropped (process_arrival_covers game received covers)
    (Bridge.process_genuine Handler.arrival_unchanged received)

/-- What a new backend brings with the batch that spawns the player is recorded, and all else is
forgotten. -/
theorem Spawns.covers (spawns : session.Spawns frame pending batch) :
    (session.keptFromPending pending batch).1.scene.Covers version
      (session.arrivals frame) := by
  obtain ⟨start, rest, among, player, packets⟩ := spawns.crossed
  have received := Connection.decode_received spawns.decoded
  have genuine : ∀ packet ∈ (session.fromPending pending batch).batch.packets,
      packet.IsGenuine := Bridge.process_genuine Handler.arrival_unchanged received
  have nothing : Scene.empty.Covers version [] := fun _ live => by cases live
  have covers := @process_arrival_covers version [] { batch with packets := rest }
    pending.peer.connection.version (pending.arrival.spawn session.player start)
    { pending.arrival with started := true } rfl
    (fun packet mem => received packet (among mem)) nothing
  rw [keptFromPending_scene, arrivals_eq spawns.met spawns.decoded, player]
  rw [packets]
  exact Scene.Covers.undropped covers (packets ▸ genuine)

/-! ## What is learned of what is shown -/

/-- What is known about what the client shows: it is recorded, and so is what waits. While the
client is on its way out, it shows nothing. -/
structure Shown (session : Session) (version : Version) (heard : List BatchPacket) : Prop where
  covers : session.player.scene.Covers version (heard ++ session.held)
  bare : session.player.isLocked = true → ShowsNothing version heard

/-- All that the client shows is recorded. -/
theorem Shown.recorded (shown : session.Shown version heard) :
    session.player.scene.Covers version heard := by
  cases locked : session.player.isLocked with
  | true => exact (shown.bare locked).covers
  | false =>
    have covers := shown.covers
    rw [held_of_free locked, List.append_nil] at covers
    exact covers

/-- What is learned of what the client shows. -/
structure Records (session : Session) (event : Event) (version : Version)
    (player : Player) (heard : List BatchPacket) : Prop where
  covers : player.scene.Covers version heard
  bare : player.isLocked = true → ShowsNothing version heard ∧
    player.scene.Covers version (session.held ++ session.arrived (.event event))

/-- What is queued for the client, and chatter, shows nothing. -/
theorem showsNothing_chatter {talk : List Batch} (sound : session.Sound)
    (chatter : ∀ batch ∈ talk, batch.IsChatter session.client.queue.packets) :
    ShowsNothing version (talk.flatMap Batch.packets) := by
  refine AllMade.showsNothing fun packet mem => ?_
  obtain ⟨batch, among, inside⟩ := List.mem_flatMap.mp mem
  rcases (chatter batch among).packets packet inside with queued | ⟨value, rfl, -⟩
  · exact sound.tidy.client.made packet queued
  · exact ⟨value, rfl⟩

/-- What is queued for the client shows nothing. -/
theorem showsNothing_queued (sound : session.Sound) :
    ShowsNothing version (session.client.queue.queuedBatch.flatMap Batch.packets) :=
  showsNothing_chatter sound fun _ mem => Batch.isChatter_queued mem

/-- Whatever the client learns at an event is recorded, unless a backend refuses the player and then
spawns it. -/
theorem Learns.records {player : Player} {batches : List Batch}
    (learns : session.Learns event player batches) (sound : session.Sound)
    (shown : session.Shown version heard)
    (accepted : ∀ frame pending batch, event = .pending (some frame) →
      session.Spawns frame pending batch → pending.refusesFirst batch = false) :
    session.Records event version player (heard ++ batches.flatMap Batch.packets) := by
  have waits : session.player.scene.Covers version session.held := shown.covers.last
  cases learns with
  | nothing still =>
    rw [List.flatMap_nil, List.append_nil]
    refine ⟨shown.recorded, fun locked => ⟨shown.bare locked, ?_⟩⟩
    rw [still, List.append_nil]
    exact waits
  | @relayed frame backend batch on free decoded =>
    refine ⟨?_, fun locked => ?_⟩
    · unfold relayedBatches
      dsimp only
      split
      next empty =>
        have covers := fromBackend_covers decoded shown.recorded
        rw [List.isEmpty_iff.mp empty] at covers
        exact covers
      next =>
        rw [List.flatMap_append, List.flatMap_singleton, ← List.append_assoc]
        exact fromBackend_covers decoded (shown.recorded.append (showsNothing_queued sound))
    · have same : (session.fromBackend backend batch).player.transfer =
        session.player.transfer := process_backend.1
      simp only [Player.isLocked, same] at locked
      cases locked.symm.trans free
  | @waited frame pending batch met game decoded =>
    obtain ⟨transfer, moving, away⟩ := sound.departing met game
    have locked := Player.locked_of_departing moving away
    rw [List.flatMap_nil, List.append_nil]
    exact ⟨(shown.bare locked).covers,
      fun _ => ⟨shown.bare locked, waited_covers met game decoded waits⟩⟩
  | refused spawns refuses => cases (accepted _ _ _ rfl spawns).symm.trans refuses
  | @sentAway frame pending batch transfer spawns accepts opened moving away =>
    rw [List.flatMap_singleton]
    have nothing : ShowsNothing version
        (heard ++ (session.departureBatch pending batch transfer).packets) :=
      shown.recorded.tornDown _
    have unheld : session.held = [] := held_of_none (spawns.unmoved sound)
    refine ⟨nothing.covers, fun _ => ⟨nothing, ?_⟩⟩
    rw [unheld, List.nil_append]
    exact spawns.covers
  | @left frame pending transfer met moving away said opened =>
    have locked := Player.locked_of_departing moving away
    have queued : ShowsNothing version ((if transfer.waiting.release.1.isEmpty then []
        else session.client.queue.queuedBatch).flatMap Batch.packets) := by
      split
      · exact fun _ => rfl
      · exact showsNothing_queued sound
    refine ⟨?_, fun locked => ?_⟩
    · rw [arrivalBatches_packets moving away, ← List.append_assoc, ← List.append_assoc]
      exact waits.behind (((shown.bare locked).append allMade_map_made.showsNothing).append queued)
    · simp [Player.isLocked, Transfer.isLocked] at locked

/-- What is known after a move that is not of a backend that has refused the player. -/
theorem move_shown {move : Move} (sound : session.Sound) (shown : session.Shown version heard)
    (accepted : ∀ frame pending batch, move = .event (.pending (some frame)) →
      session.Spawns frame pending batch → pending.refusesFirst batch = false) :
    (session.move move).1.stage = .over ∨ (session.move move).1.Shown version
      (heard ++ heardOn LinkId.isClient (session.move move).2) := by
  cases move with
  | push packet =>
    right
    have silent : heardOn LinkId.isClient (session.push packet).2.2 = [] := heardOn_counted
    simp only [Session.move, silent, List.append_nil]
    exact ⟨shown.covers, shown.bare⟩
  | event event =>
    rcases handle_learns event sound with ⟨player, batches, learns, hears, remains⟩ | ⟨ended, -⟩
    · right
      obtain ⟨talk, sends, chatter⟩ := hears
      obtain ⟨more, grown, told⟩ := sends.heard
      have grown : (session.handle event).2 = more := grown
      have packets : heard ++ heardOn LinkId.isClient (session.handle event).2 =
          heard ++ batches.flatMap Batch.packets ++ talk.flatMap Batch.packets := by
        rw [heardOn_isClient, grown, told, List.flatMap_append, List.append_assoc]
      have silent := @showsNothing_chatter session version talk sound chatter
      obtain ⟨covers, bare⟩ := learns.records sound shown
        fun frame pending batch same => accepted frame pending batch (same ▸ rfl)
      have onward (locked : (session.handle event).1.player.isLocked = true) :
          player.isLocked = true := by
        rcases remains.transfer with ended | same
        · simp [Player.isLocked, ended] at locked
        · rw [← locked]
          simp [Player.isLocked, same]
      simp only [Session.move, packets]
      refine ⟨?_, fun locked => (bare (onward locked)).1.append silent⟩
      rw [remains.scene]
      cases locked : (session.handle event).1.player.isLocked with
      | true =>
        have held := (@move_leavesLocked session (.event event) sound locked).held
        obtain ⟨nothing, waits⟩ := bare (onward locked)
        rw [show (session.handle event).1.held = _ from held]
        exact waits.behind (nothing.append silent)
      | false =>
        rw [held_of_free locked, List.append_nil]
        exact covers.append silent
    · exact .inl ended

/-- When the client is sent on, it shows nothing. -/
theorem Directs.clears (directs : session.Directs event batch)
    (shown : session.Shown version heard) : ShowsNothing version (heard ++ batch.packets) := by
  cases directs with
  | out spawns accepts opened moving away => exact shown.recorded.tornDown _
  | onward met moving away =>
    have locked := Player.locked_of_departing moving away
    exact (shown.bare locked).append allMade_map_made.showsNothing

/-! ## Backends that refuse the player and spawn it -/

/-- A frame with which a new backend refuses the player, and then spawns it nevertheless. -/
def RefusesFirst (session : Session) (frame : Bytes) : Prop :=
  ∃ pending batch, session.Spawns frame pending batch ∧ pending.refusesFirst batch = true

/-- A frame spawns the player in one way. -/
theorem Spawns.unique {there : PendingBackend} {other : Batch}
    (spawns : session.Spawns frame pending batch) (again : session.Spawns frame there other) :
    pending = there ∧ batch = other := by
  cases spawns.met.symm.trans again.met
  cases spawns.decoded.symm.trans again.decoded
  exact ⟨rfl, rfl⟩

/-- A backend that refuses the player first does not lock the client. -/
theorem handle_refusesFirst (sound : session.Sound) (refuses : session.RefusesFirst frame) :
    (session.handle (.pending (some frame))).1.player.isLocked = false := by
  obtain ⟨pending, batch, spawns, refuses⟩ := refuses
  have still : session.player.transfer = none := spawns.unmoved sound
  suffices ended : (session.handle (.pending (some frame))).1.player.transfer = none by
    simp [Player.isLocked, ended]
  rcases handle_learns (.pending (some frame)) sound with
    ⟨player, batches, learns, -, remains⟩ | ⟨ended, -⟩
  · have known : player.transfer = none := by
      cases learns with
      | nothing => exact still
      | waited met game =>
        cases spawns.met.symm.trans met
        cases spawns.login.symm.trans game
      | refused => rfl
      | sentAway again accepts =>
        obtain ⟨rfl, rfl⟩ := spawns.unique again
        cases refuses.symm.trans accepts
    rcases remains.transfer with ended | same
    · exact ended
    · exact same.trans known
  · exact (move_coherent session (.event _) sound.coherent).of_over ended

/-- What is known all along a run, as long as what the client shows is recorded after each frame
with which a new backend has refused the player and then spawned it. -/
theorem play_shown {moves : List Move} (sound : session.Sound)
    (began : session.Shown version [])
    (refused : ∀ earlier frame later, moves = earlier ++ .event (.pending (some frame)) :: later →
      (session.play earlier).1.RefusesFirst frame →
      let after := session.play (earlier ++ [.event (.pending (some frame))])
      after.1.stage = .over ∨
        after.1.player.scene.Covers version (heardOn LinkId.isClient after.2))
    (earlier later : List Move) (split : moves = earlier ++ later) :
    (session.play earlier).1.stage = .over ∨ (session.play earlier).1.Shown version
      (heardOn LinkId.isClient (session.play earlier).2) := by
  refine play_traces (fun session heard => session.stage = .over ∨ session.Shown version heard)
    (.inr began) ?_ earlier later split
  intro earlier move later split before heard there
  have here : before.1.Sound := sound_play earlier sound
  by_cases refuses : ∃ frame, move = .event (.pending (some frame)) ∧ before.1.RefusesFirst frame
  · obtain ⟨frame, rfl, refuses⟩ := refuses
    have free : (before.1.move (.event (.pending (some frame)))).1.player.isLocked = false :=
      handle_refusesFirst here refuses
    have recorded := refused earlier frame later split refuses
    simp only [play_append, play, List.append_nil, heardOn_append] at recorded
    refine recorded.imp id fun covers => ⟨?_, fun locked => ?_⟩
    · rw [held_of_free free, List.append_nil]
      exact covers
    · cases free.symm.trans locked
  · rcases there with ended | shown
    · left
      cases move with
      | push packet => exact ended
      | event event => exact handle_stage_over ended
    · refine move_shown here shown fun frame pending batch same spawns => ?_
      cases refusal : pending.refusesFirst batch with
      | false => rfl
      | true => exact absurd ⟨frame, same, pending, batch, spawns, refusal⟩ refuses

/-- After every run: all that the client shows has been recorded all along, and the client showed
nothing whenever it was sent on, exactly where all was recorded that it showed after each frame with
which a new backend has refused the player and then spawned it. -/
theorem play_recorded (login : LoginData) (services : SessionServices) (client : Connection)
    (initial : Server) (moves : List Move) (version : Version) :
    let base := (start login services client initial).1
    let Recorded (run : List Move) : Prop := (base.play run).1.stage = .over ∨
      (base.play run).1.player.scene.Covers version (heardOn LinkId.isClient (base.play run).2)
    ((∀ earlier later, moves = earlier ++ later → Recorded earlier) ∧
      ∀ ahead batch behind, heardBatches (base.play moves).2 = ahead ++ batch :: behind →
        batch.skipQueue = true → (∃ packet ∈ batch.packets, packet.isChange = true) →
          ShowsNothing version (ahead.flatMap Batch.packets ++ batch.packets)) ↔
    ∀ earlier frame later, moves = earlier ++ .event (.pending (some frame)) :: later →
      (base.play earlier).1.RefusesFirst frame →
        Recorded (earlier ++ [.event (.pending (some frame))]) := by
  intro base Recorded
  have began : base.Sound := play_sound login services client initial []
  constructor
  · rintro ⟨recorded, -⟩ earlier frame later split -
    exact recorded _ later (by rw [split, List.append_assoc]; rfl)
  · intro refused
    have fresh : base.Shown version [] := by
      refine ⟨fun _ live => ?_, fun locked => ?_⟩
      · cases live
      · cases locked
    have shown := play_shown began fresh refused
    refine ⟨fun earlier later split => (shown earlier later split).imp id Shown.recorded, ?_⟩
    rintro ahead batch behind split overtakes ⟨change, mem, changes⟩
    have telling : ¬change.IsPlain := fun plain => by cases changes.symm.trans plain.isChange
    obtain ⟨earlier, event, later, moves, rfl, directs⟩ :=
      play_directs began split overtakes mem telling
    rw [← heardOn_isClient]
    rcases shown earlier _ moves with ended | shown
    · cases ended.symm.trans (directs.playing (sound_play earlier began))
    · exact directs.clears shown

/-- The lobby has shown an entity when the survival server refuses the player and spawns it. The
client goes on showing the entity, but it is not recorded any more; and when the client is sent
away to the hub, it still shows it. -/
theorem entity_forgotten :
    let entity : AddEntity := ⟨7, 7, "", Vector.zero, Vector.zero,
      Single.zero, Single.zero, Single.zero, Single.zero, [], ⟨[]⟩, []⟩
    let refusal : List Packet := [.disconnect ⟨0, false, "full", ""⟩,
      .startGame ⟨1, 1, 0, Vector.zero, Rotation.zero, 0, 0, "", 0, []⟩]
    let refused := Sample.session.play (Sample.moving ++
      [.event (.backend (some (Sample.frame [.addEntity entity]))),
        .event (.pending (some (Sample.frame refusal)))])
    let onward := refused.1.play
      [.event (.connected 2 (.ok (2, Sample.connection))), Sample.spawning]
    (refused.1.stage matches .playing) = true ∧
    isLive .v712 7 (heardOn LinkId.isClient refused.2) = true ∧
    refused.1.player.scene.entities = [] ∧
    (heardBatches onward.2).any (fun batch =>
      batch.skipQueue && batch.packets.any BatchPacket.isChange) = true ∧
    isLive .v712 7 (heardOn LinkId.isClient (refused.2 ++ onward.2)) = true := by
  decide +kernel

end Session

end Ferry
