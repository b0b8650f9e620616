import Mathlib.Data.List.Induction
import Ferry.Proofs.Session.ArrivalLessons

/-!
# How the proxy sends the client on

What the proxy makes itself for the client overtakes what is queued. Besides plain packets there
are only two such batches: the one that sends the client out of the old backend's dimension, and
the one that sends it on into that of the new one. Each of them is the first that the client hears
of its event.
-/

namespace Ferry

/-- The batches with which the proxy sends the client on. -/
inductive Session.Directs (session : Session) : Event → Batch → Prop
  /-- Out of the dimension of the old backend. -/
  | out {frame : Bytes} {pending : PendingBackend} {batch : Batch} {transfer : Transfer}
      (spawns : session.Spawns frame pending batch)
      (accepts : pending.refusesFirst batch = false) (opened : session.client.isOpen = true)
      (moving : (session.keptFromPending pending batch).1.transfer = some transfer)
      (away : transfer.phase = .departing) :
      Directs session (.pending (some frame)) (session.departureBatch pending batch transfer)
  /-- Into the dimension of the new backend. -/
  | onward {frame : Bytes} {pending : PendingBackend} {transfer : Transfer}
      (met : session.pending = some pending)
      (moving : session.player.transfer = some transfer) (away : transfer.phase = .departing)
      (said : session.askedByClient frame ≠ []) (opened : session.client.isOpen = true) :
      Directs session (.client (some frame))
        (Batch.ahead ((session.playerAfterClient frame).arrivalPackets transfer))

/-- A frame with which a new backend sends an open client away: it spawns the player, and has not
refused it before. -/
def Session.SendsAway (session : Session) (frame : Bytes) : Prop :=
  session.client.isOpen = true ∧ ∃ pending batch, session.Spawns frame pending batch ∧
    pending.refusesFirst batch = false

/-- An element of two lists in a row is in the second one, or else in the first. -/
theorem append_eq_append_cons {α : Type} {first second ahead behind : List α} {value : α} :
    first ++ second = ahead ++ value :: behind ↔
      (∃ front, ahead = first ++ front ∧ second = front ++ value :: behind) ∨
        ∃ back, first = ahead ++ value :: back ∧ behind = back ++ second := by
  constructor
  · intro split
    rcases List.append_eq_append_iff.mp split with ⟨front, whole, rest⟩ | ⟨back, whole, rest⟩
    · exact .inl ⟨front, whole, rest⟩
    · cases back with
      | nil => exact .inl ⟨[], by simpa using whole.symm, rest.symm⟩
      | cons first back =>
        obtain ⟨rfl, rfl⟩ := List.cons.inj rest
        exact .inr ⟨back, whole, rfl⟩
  · rintro (⟨front, rfl, rfl⟩ | ⟨back, rfl, rfl⟩) <;> simp

namespace Session

variable {session : Session} {event : Event} {batch : Batch} {packet : BatchPacket}
  {front back : List Batch}

/-- Only a session that plays sends its client on. -/
theorem Directs.playing (directs : session.Directs event batch) (sound : session.Sound) :
    session.stage = .playing := by
  cases directs with
  | out spawns => exact (sound.coherent.of_pending spawns.met).1
  | onward met => exact (sound.coherent.of_pending met).1

/-- A client that speaks for itself is sent on by the arrival packets of its transfer. -/
theorem Directs.onward_eq {frame : Bytes} {transfer : Transfer}
    (directs : session.Directs (.client (some frame)) batch)
    (moving : session.player.transfer = some transfer) :
    batch = Batch.ahead ((session.playerAfterClient frame).arrivalPackets transfer) := by
  cases directs with
  | onward met there =>
    obtain rfl := Option.some.inj (there.symm.trans moving)
    rfl

/-- What is relayed waits behind what is queued. -/
theorem relayedBatches_queued {backend : Backend} {frame : Bytes}
    (decoded : (backend.peer.connection.decode frame).1 = .ok batch) :
    ∀ other ∈ session.relayedBatches backend batch, other.skipQueue = false := by
  unfold relayedBatches
  dsimp only
  split
  · simp
  · refine List.forall_mem_append.mpr ⟨?_, List.forall_mem_singleton.mpr ?_⟩
    · exact fun _ mem => Batch.queued_of_queuedBatch mem
    · exact Bridge.process_skipQueue.trans (Connection.decode_skipQueue decoded)

/-- A client that has left the old backend hears that it is sent on, what was queued, and all that
has waited for it. -/
theorem arrivalBatches_packets {frame : Bytes} {transfer : Transfer}
    (moving : session.player.transfer = some transfer) (away : transfer.phase = .departing) :
    (session.arrivalBatches frame transfer).flatMap Batch.packets =
      (Batch.ahead ((session.playerAfterClient frame).arrivalPackets transfer)).packets ++
        ((if transfer.waiting.release.1.isEmpty then []
          else session.client.queue.queuedBatch).flatMap Batch.packets ++ session.held) := by
  unfold arrivalBatches
  rw [List.flatMap_cons, List.flatMap_append, Waiting.release_packets, held_of_locked moving away]

/-- A batch that overtakes the queue and tells something is the first one that the client hears of
what is learned, and sends the client on. -/
theorem Learns.directs {player : Player} {batches talk : List Batch} {queued : List BatchPacket}
    (learns : session.Learns event player batches)
    (split : batches ++ talk = front ++ batch :: back)
    (chatter : ∀ other ∈ talk, other.IsChatter queued) (ahead : batch.skipQueue = true)
    (mem : packet ∈ batch.packets) (telling : ¬packet.IsPlain) :
    front = [] ∧ session.Directs event batch := by
  have elsewhere {others : List Batch} (waits : ∀ other ∈ others, other.skipQueue = false) :
      batch ∉ others ++ talk := by
    intro among
    rcases List.mem_append.mp among with among | among
    · cases ahead.symm.trans (waits batch among)
    · exact telling ((chatter batch among).ahead ahead packet mem)
  have among : batch ∈ batches ++ talk := by simp [split]
  -- The only place that is left for the batch is in front of all others.
  have first {directing : Batch} {others : List Batch}
      (whole : batches ++ talk = directing :: (others ++ talk))
      (waits : ∀ other ∈ others, other.skipQueue = false) : front = [] ∧ batch = directing := by
    rw [split] at whole
    cases front with
    | nil => exact ⟨rfl, (List.cons.inj whole).1⟩
    | cons other front =>
      refine absurd ?_ (elsewhere waits)
      rw [← (List.cons.inj whole).2]
      simp
  cases learns with
  | nothing => exact absurd among (elsewhere (by simp))
  | relayed on free decoded => exact absurd among (elsewhere (relayedBatches_queued decoded))
  | waited => exact absurd among (elsewhere (by simp))
  | refused => exact absurd among (elsewhere (by simp))
  | sentAway spawns accepts opened moving away =>
    obtain ⟨leading, rfl⟩ := @first _ [] rfl (by simp)
    exact ⟨leading, .out spawns accepts opened moving away⟩
  | @left _ _ transfer met moving away said opened =>
    obtain ⟨leading, rfl⟩ := first rfl <| by
      refine List.forall_mem_append.mpr ⟨?_, transfer.waiting.release_queued⟩
      split
      · simp
      · exact fun _ mem => Batch.queued_of_queuedBatch mem
    exact ⟨leading, .onward met moving away said opened⟩

/-- A batch that overtakes the queue and tells something is the first one that the client hears of
its event, and sends the client on. -/
theorem handle_directs (sound : session.Sound)
    (split : heardBatches (session.handle event).2 = front ++ batch :: back)
    (ahead : batch.skipQueue = true) (mem : packet ∈ batch.packets) (telling : ¬packet.IsPlain) :
    front = [] ∧ session.Directs event batch := by
  obtain ⟨batches, may, talk, sends, chatter⟩ : ∃ batches, session.MayHear event batches ∧
      SessionTurn.Hears ⟨session, []⟩ batches
        ⟨(session.handle event).1, (session.handle event).2⟩ := by
    rcases handle_learns event sound with ⟨player, batches, learns, hears, -⟩ | ⟨-, heard⟩
    · exact ⟨batches, .inr ⟨player, learns⟩, hears⟩
    · exact heard
  obtain ⟨more, grown, heard⟩ := sends.heard
  have grown : (session.handle event).2 = more := grown
  rw [grown, heard] at split
  rcases may with rfl | ⟨player, learns⟩
  · have among : batch ∈ talk := by
      rw [List.nil_append] at split
      simp [split]
    exact absurd ((chatter batch among).ahead ahead packet mem) telling
  · exact learns.directs split chatter ahead mem telling

/-- The same of a move; only an event sends the client on. -/
theorem move_directs {move : Move} (sound : session.Sound)
    (split : heardBatches (session.move move).2 = front ++ batch :: back)
    (ahead : batch.skipQueue = true) (mem : packet ∈ batch.packets) (telling : ¬packet.IsPlain) :
    front = [] ∧ ∃ event, move = .event event ∧ session.Directs event batch := by
  cases move with
  | push value =>
    have nothing : heardBatches (session.push value).2.2 = [] := heardBatches_counted
    exact absurd (nothing.symm.trans split) (by simp)
  | event event =>
    obtain ⟨leading, directs⟩ := handle_directs sound split ahead mem telling
    exact ⟨leading, event, rfl, directs⟩

/-- A client that is sent away hears the batch by which that is done, and then nothing but
chatter. -/
theorem handle_sendsAway {frame : Bytes} {pending : PendingBackend} (sound : session.Sound)
    (spawns : session.Spawns frame pending batch) (accepts : pending.refusesFirst batch = false)
    (opened : session.client.isOpen = true) :
    ∃ transfer, session.Directs (.pending (some frame))
        (session.departureBatch pending batch transfer) ∧
      SessionTurn.Hears ⟨session, []⟩ [session.departureBatch pending batch transfer]
        ⟨(session.handle (.pending (some frame))).1,
          (session.handle (.pending (some frame))).2⟩ := by
  obtain ⟨playing, going, course⟩ := sound.coherent.of_pending spawns.met
  obtain ⟨transfer, moving, away⟩ := spawns.departing course
  refine ⟨transfer, .out spawns accepts opened moving away, ?_⟩
  have leads : (Work.onEvent (.pending (some frame))).Leads ⟨session, []⟩ _ _ :=
    Work.leads_sentAway sound.tidy going spawns accepts moving away course
  refine handle_of_leads (fun turn => SessionTurn.Hears ⟨session, []⟩ _ turn) playing (by simp)
    (leads.mono ?_ ?_)
  · rintro _ after ⟨-, hears, -⟩
    exact ⟨fun _ => hears, fun _ _ => hears.trans (SessionTurn.closedDown_chats hears.tidy)⟩
  · intro _ after hears
    rw [if_pos opened] at hears
    exact hears.trans (SessionTurn.closedDown_chats hears.tidy)

/-! ## Runs -/

/-- What is over stays over. -/
theorem handle_stage_over (ended : session.stage = .over) :
    (session.handle event).1.stage = .over := by
  by_cases here : ∃ link, event = .severed link
  · obtain ⟨link, rfl⟩ := here
    simpa [handle, sever] using ended
  · rw [handle_of_over ended fun link same => here ⟨link, same⟩]
    exact ended

/-- What the client has heard up to some batch of a run: all of the moves before, and what came
ahead of that batch with its own move. -/
theorem heardBatches_play {moves : List Move} {ahead behind : List Batch} :
    heardBatches (session.play moves).2 = ahead ++ batch :: behind ↔
      ∃ earlier move later front back, moves = earlier ++ move :: later ∧
        heardBatches ((session.play earlier).1.move move).2 = front ++ batch :: back ∧
        ahead = heardBatches (session.play earlier).2 ++ front ∧
        behind = back ++
          heardBatches (((session.play earlier).1.move move).1.play later).2 := by
  constructor
  · intro split
    induction moves generalizing session ahead with
    | nil => simp [play] at split
    | cons move moves ih =>
      simp only [play, heardBatches_append] at split
      rcases append_eq_append_cons.mp split with ⟨front, rfl, rest⟩ | ⟨back, heard, rfl⟩
      · obtain ⟨earlier, other, later, inner, back, rfl, heard, rfl, behind⟩ := ih rest
        exact ⟨move :: earlier, other, later, inner, back, rfl, heard, by simp [play], behind⟩
      · exact ⟨[], move, moves, ahead, back, rfl, heard, by simp [play], rfl⟩
  · rintro ⟨earlier, move, later, front, back, rfl, heard, rfl, rfl⟩
    simp [play_append, play, heard]

/-- A batch of a run that overtakes the queue and tells something is the first one that the client
hears of some event, and sends the client on. -/
theorem play_directs {moves : List Move} {ahead behind : List Batch} (sound : session.Sound)
    (split : heardBatches (session.play moves).2 = ahead ++ batch :: behind)
    (overtakes : batch.skipQueue = true) (mem : packet ∈ batch.packets)
    (telling : ¬packet.IsPlain) :
    ∃ earlier event later, moves = earlier ++ .event event :: later ∧
      ahead = heardBatches (session.play earlier).2 ∧
      (session.play earlier).1.Directs event batch := by
  obtain ⟨earlier, move, later, front, back, rfl, heard, rfl, -⟩ := heardBatches_play.mp split
  obtain ⟨rfl, event, rfl, directs⟩ :=
    move_directs (sound_play earlier sound) heard overtakes mem telling
  exact ⟨earlier, event, later, rfl, List.append_nil _, directs⟩

/-- What holds of a session when it starts, and is kept by each move of a run together with what
the client has heard, holds all along the run. -/
theorem play_traces {moves : List Move} (inv : Session → List BatchPacket → Prop)
    (holds : inv session [])
    (step : ∀ earlier move later, moves = earlier ++ move :: later →
      let before := session.play earlier
      let heard := heardOn LinkId.isClient before.2
      inv before.1 heard →
        inv (before.1.move move).1 (heard ++ heardOn LinkId.isClient (before.1.move move).2))
    (earlier later : List Move) (split : moves = earlier ++ later) :
    inv (session.play earlier).1 (heardOn LinkId.isClient (session.play earlier).2) := by
  induction earlier using List.reverseRecOn generalizing later with
  | nil => exact holds
  | append_singleton earlier move ih =>
    rw [List.append_assoc] at split
    have next := step earlier move later split (ih _ split)
    simpa [play_append, play] using next

end Session

end Ferry
