import Ferry.Proofs.Session.EventDeeds

/-!
# The last thing that a client is told

Whoever takes leave of a client, only the session itself tells it so: packets of a backend that take
leave are taken out, and what the proxy says otherwise takes none. So nothing that a client hears
takes leave of it until the session is closed down, and then the last packet does, behind all that
was still queued.
-/

namespace Ferry

/-- The packets with which a session that is closed down takes leave of its client. -/
def Exit.parting : Exit → List BatchPacket
  | .farewell reason => [.made (.disconnect (Disconnect.ofMessage reason.text))]
  | .clientGone => []

/-- A session that has nothing in store for its client that takes leave of it. -/
structure Session.Stays (session : Session) : Prop where
  client : session.client.link = .client
  backend : ∀ backend, session.backend = some backend → backend.peer.link.isClient = false
  pending : ∀ pending, session.pending = some pending → pending.peer.link.isClient = false
  queued : NoFarewells session.client.queue.content
  waiting : ∀ transfer, session.player.transfer = some transfer →
    NoFarewells transfer.waiting.packets

/-- A turn in which, besides, nothing was said to the client that takes leave of it. -/
structure SessionTurn.Stays (turn : SessionTurn) : Prop where
  session : turn.session.Stays
  heard : NoFarewells (heardOn LinkId.isClient turn.outputs)

/-- What is left of packets none of which takes leave. -/
theorem NoFarewells.subset {packets others : List BatchPacket} (stays : NoFarewells packets)
    (among : others ⊆ packets) : NoFarewells others :=
  fun packet mem => stays packet (among mem)

/-- Where nothing is said, no leave is taken. -/
theorem noFarewells_nil : NoFarewells [] := fun _ mem => by cases mem

section Spoken

variable {peer after : Peer} {said : List BatchPacket} {outputs : List Output}

/-- What a peer hears that is told nothing that takes leave, and what is queued for it then. -/
theorem Peer.Speaks.stays (speaks : peer.Speaks said after outputs)
    (queued : NoFarewells peer.queue.content) (stays : NoFarewells said) :
    NoFarewells after.queue.content ∧ NoFarewells (heardOn LinkId.isClient outputs) :=
  have whole := noFarewells_append.mpr ⟨queued, stays⟩
  ⟨whole.subset speaks.content, whole.subset (speaks.heard _)⟩

end Spoken

namespace SessionTurn

variable {turn after : SessionTurn} {event : Event}

/-- The client hears nothing as a backend is given up. -/
theorem Stays.backendClosing (stays : turn.Stays) :
    heardOn LinkId.isClient turn.session.backendClosing = [] := by
  unfold Session.backendClosing
  cases on : turn.session.backend with
  | none => rfl
  | some backend =>
    have away := stays.session.backend backend on
    simp [Peer.heardOn_close, away]

/-- The client does not hear that the new backend's link is closed. -/
theorem Stays.pendingClosing (stays : turn.Stays) :
    heardOn LinkId.isClient turn.session.pendingClosing = [] := by
  unfold Session.pendingClosing
  cases met : turn.session.pending with
  | none => rfl
  | some pending =>
    have away := stays.session.pending pending met
    simp [Peer.heardOn_close, away]

/-- A new backend lets nothing wait, whatever it sends, but for the packets that cross. -/
theorem waiting_of_progress {arrival last : Arrival} {transfer kept : Option Transfer}
    {actions : List Action} (progress : arrival.Progress transfer last kept actions)
    (waiting : ∀ onward, transfer = some onward → NoFarewells onward.waiting.packets) :
    ∀ onward, kept = some onward → NoFarewells onward.waiting.packets := by
  intro onward moving
  cases progress with
  | loggingIn => exact waiting onward moving
  | spawned _ isFresh =>
    cases moving
    rw [isFresh.waiting]
    exact noFarewells_nil
  | goesOn _ aim =>
    rcases aim with rfl | ⟨dimension, rfl⟩
    · exact waiting onward moving
    · obtain ⟨before, was, rfl⟩ := Option.map_eq_some_iff.mp moving
      exact waiting before was

/-- What a new backend has sent that waits for the client takes no leave of it. -/
theorem waiting_of_pending {session : Session} {pending : PendingBackend} {frame : Bytes}
    {batch : Batch} (decoded : (pending.peer.connection.decode frame).1 = .ok batch)
    (waiting : ∀ transfer, session.player.transfer = some transfer →
      NoFarewells transfer.waiting.packets) :
    ∀ transfer, (session.keptFromPending pending batch).1.transfer = some transfer →
      NoFarewells transfer.waiting.packets := by
  have came : NoFarewells (session.fromPending pending batch).batch.packets :=
    Handler.arrival_detains.process (Connection.decode_received decoded)
  have before := waiting_of_progress (Work.fromPending_progress session pending batch) waiting
  unfold Session.keptFromPending
  dsimp only
  split
  · intro transfer moving
    rw [Work.keepWaiting_player] at moving
    obtain ⟨base, was, rfl⟩ := Option.map_eq_some_iff.mp moving
    unfold Waiting.push
    dsimp only
    split
    · exact noFarewells_nil
    · exact noFarewells_append.mpr ⟨before base was, came.subset List.filter_sublist.subset⟩
  · exact before

/-- To take a player from all backends takes no leave of it. -/
theorem Stays.adrift (stays : turn.Stays) : turn.adrift.Stays where
  session := ⟨stays.session.client, fun _ on => (by cases on), fun _ met => (by cases met),
    stays.session.queued, fun _ moving => (by cases moving)⟩
  heard := by
    simp only [SessionTurn.adrift, heardOn_append, stays.backendClosing, stays.pendingClosing,
      List.append_nil]
    exact stays.heard

/-- To fall back on another server takes no leave of the player. -/
theorem Stays.fallenBack (stays : turn.Stays) {lost : Server} {reason : Farewell}
    {message : String} : (turn.fallenBack lost reason message).Stays := by
  unfold SessionTurn.fallenBack
  dsimp only
  split
  · refine ⟨⟨stays.session.client, stays.session.backend, fun _ met => (by cases met),
      stays.session.queued, stays.session.waiting⟩, ?_⟩
    simpa using stays.heard
  · refine ⟨⟨stays.session.client, stays.session.backend, stays.session.pending,
      stays.session.queued, stays.session.waiting⟩, ?_⟩
    simpa using stays.heard

/-- No deed takes leave of the client. -/
theorem Deed.stays (deed : turn.Deed event after) (stays : turn.Stays) : after.Stays := by
  obtain ⟨⟨client, backend, pending, queued, waiting⟩, heard⟩ := stays
  cases deed with
  | toldClient speaks quiet =>
    obtain ⟨queued, more⟩ := speaks.stays queued quiet
    refine ⟨⟨speaks.link.trans client, backend, pending, queued, waiting⟩, ?_⟩
    rw [heardOn_append]
    exact noFarewells_append.mpr ⟨heard, more⟩
  | @toldBackend there _ peer more on speaks =>
    refine ⟨⟨client, ?_, pending, queued, waiting⟩, ?_⟩
    · rintro _ ⟨⟩
      rw [speaks.link]
      exact backend there on
    · rw [heardOn_append, speaks.own _ (backend there on), List.append_nil]
      exact heard
  | @toldPending there _ peer more met speaks =>
    refine ⟨⟨client, backend, ?_, queued, waiting⟩, ?_⟩
    · rintro _ ⟨⟩
      rw [speaks.link]
      exact pending there met
    · rw [heardOn_append, speaks.own _ (pending there met), List.append_nil]
      exact heard
  | learned transfer =>
    refine ⟨⟨client, backend, pending, queued, ?_⟩, ?_⟩
    · intro onward moving
      exact waiting onward (transfer.symm.trans moving)
    · simpa using heard
  | @tookFromPending there frame batch met decoded =>
    refine ⟨⟨client, backend, ?_, queued, waiting_of_pending decoded waiting⟩, ?_⟩
    · rintro _ ⟨⟩
      exact pending there met
    · simpa [SessionTurn.tookFromPending] using heard
  | lostBackend =>
    have closing := Stays.backendClosing ⟨⟨client, backend, pending, queued, waiting⟩, heard⟩
    refine ⟨⟨client, fun _ on => (by cases on), pending, queued, waiting⟩, ?_⟩
    rw [heardOn_append, closing, List.append_nil]
    exact heard
  | fellBack => exact (Stays.adrift ⟨⟨client, backend, pending, queued, waiting⟩, heard⟩).fallenBack
  | called =>
    exact ⟨⟨client, backend, fun _ met => (by cases met), queued, waiting⟩, by simpa using heard⟩
  | met _ _ _ faces =>
    refine ⟨⟨client, backend, ?_, queued, waiting⟩, heard⟩
    rintro _ ⟨⟩
    exact faces
  | setOff moving =>
    refine ⟨⟨client, ?_, pending, queued, waiting⟩, by simpa using heard⟩
    intro other on
    obtain ⟨there, was, rfl⟩ := Option.map_eq_some_iff.mp on
    exact backend there was
  | @sentOn there transfer said peer more met moving aimed speaks ahead =>
    -- What has waited goes out behind what sends the client on.
    have quiet : NoFarewells said :=
      (noFarewells_append.mpr ⟨noFarewells_arrival _ _, waiting transfer moving⟩).subset ahead
    obtain ⟨queued, more⟩ := speaks.stays queued quiet
    refine ⟨⟨speaks.link.trans client, ?_, fun _ met => (by cases met), queued, ?_⟩, ?_⟩
    · rintro _ ⟨⟩
      exact pending there met
    · rintro _ ⟨⟩
      exact noFarewells_nil
    · rw [heardOn_append]
      exact noFarewells_append.mpr ⟨heard, more⟩
  | arrived => exact ⟨⟨client, backend, pending, queued, fun _ moving => (by cases moving)⟩, heard⟩
  | @reported source target =>
    refine ⟨⟨client, backend, pending, queued, waiting⟩, ?_⟩
    cases source <;> simpa using heard
  | ends => exact ⟨⟨client, backend, pending, queued, waiting⟩, heard⟩

/-- What the client hears of a session that is closed down: all that was still queued for it, and
then why, unless it is gone. -/
theorem Stays.closedDown_heard (stays : turn.Stays) (exit : Exit) :
    heardOn LinkId.isClient (turn.closedDown exit).outputs =
      heardOn LinkId.isClient turn.outputs ++
        if turn.session.client.connection.severed then []
        else turn.session.client.queue.content ++ exit.last.toList.map BatchPacket.made := by
  have faces : turn.session.client.link.isClient = true := by
    rw [stays.session.client]
    rfl
  simp only [closedDown, heardOn_append, stays.backendClosing, stays.pendingClosing,
    List.append_nil, Peer.heardOn_close, faces, Bool.true_and]
  cases turn.session.client.connection.severed <;> simp [OutboundQueue.content]

/-- A session that is closed down has nothing in store afterwards. -/
theorem Stays.closedDown (stays : turn.Stays) (exit : Exit) :
    (turn.closedDown exit).session.Stays where
  client := Peer.close_link.trans stays.session.client
  backend _ on := by cases on
  pending _ met := by cases met
  queued := by
    simp only [SessionTurn.closedDown, Peer.close_queue]
    exact noFarewells_nil
  waiting _ moving := by cases moving

/-- Before a session that is closed down says why, it has told the client nothing that takes leave
of it. -/
theorem Stays.closedDown_dropLast (stays : turn.Stays) (exit : Exit) :
    NoFarewells (heardOn LinkId.isClient (turn.closedDown exit).outputs).dropLast := by
  rw [stays.closedDown_heard exit]
  split
  · rw [List.append_nil]
    exact stays.heard.subset (List.dropLast_subset _)
  · have told := noFarewells_append.mpr ⟨stays.heard, stays.session.queued⟩
    cases exit.last with
    | none =>
      simp only [Option.toList_none, List.map_nil, List.append_nil]
      exact told.subset (List.dropLast_subset _)
    | some last =>
      simp only [Option.toList_some, List.map_cons, List.map_nil]
      rw [← List.append_assoc, List.dropLast_concat]
      exact told

end SessionTurn

/-! ## Runs -/

namespace Session

variable {session : Session}

/-- A session starts with nothing in store that takes leave. -/
theorem start_stays (login : LoginData) (services : SessionServices) (client : Connection)
    (initial : Server) : (start login services client initial).1.Stays :=
  ⟨rfl, fun _ on => (by cases on), fun _ met => (by cases met), noFarewells_nil,
    fun _ moving => (by cases moving)⟩

/-- A link that is severed takes no leave. -/
theorem sever_stays (link : LinkId) (stays : session.Stays) : (session.sever link).Stays := by
  obtain ⟨client, backend, pending, queued, waiting⟩ := stays
  refine ⟨?_, ?_, ?_, ?_, waiting⟩
  · unfold sever
    dsimp only
    split <;> exact client
  · intro other on
    obtain ⟨there, was, rfl⟩ := Option.map_eq_some_iff.mp on
    dsimp only
    split <;> exact backend there was
  · intro other met
    obtain ⟨there, was, rfl⟩ := Option.map_eq_some_iff.mp met
    dsimp only
    split <;> exact pending there was
  · unfold sever
    dsimp only
    split <;> exact queued

/-- What a session still says to its client that takes in an event, and whether it goes on. -/
theorem Takes.stays {event : Event} {ending : Option (SessionTurn × Exit)}
    {result : Session × List Output} (takes : session.Takes event ending result)
    (stays : session.Stays) :
    result.1.Stays ∧
      (ending = none → NoFarewells (heardOn LinkId.isClient result.2) ∧
        (result.1.stage = .over ↔ session.stage = .over)) ∧
      ∀ turn exit, ending = some (turn, exit) → turn.Stays ∧
        result = ((turn.closedDown exit).session, (turn.closedDown exit).outputs) := by
  have here : SessionTurn.Stays ⟨session, []⟩ := ⟨stays, noFarewells_nil⟩
  have onward {after : SessionTurn} {event : Event}
      (deeds : SessionTurn.Deeds event ⟨session, []⟩ after) : after.Stays :=
    deeds.keeps SessionTurn.Stays (fun _ _ => SessionTurn.Deed.stays) here
  cases takes with
  | severed link =>
    exact ⟨sever_stays link stays, fun _ => ⟨noFarewells_nil, Iff.rfl⟩, fun _ _ ends => by
      cases ends⟩
  | idle => exact ⟨stays, fun _ => ⟨noFarewells_nil, Iff.rfl⟩, fun _ _ ends => by cases ends⟩
  | @joined server number connection joining =>
    refine ⟨⟨stays.client, ?_, stays.pending, stays.queued, stays.waiting⟩, fun _ => ?_,
      fun _ _ ends => by cases ends⟩
    · rintro _ ⟨⟩
      rfl
    · exact ⟨noFarewells_nil, by simp [joining]⟩
  | missed =>
    refine ⟨here.closedDown _, fun goes => (by cases goes), ?_⟩
    rintro _ _ ⟨⟩
    exact ⟨here, rfl⟩
  | played playing _ deeds goes =>
    have plays := deeds.keeps (fun turn => turn.session.stage = .playing)
      (fun _ _ deed plays => deed.same.1.trans plays) playing
    exact ⟨(onward deeds).session, fun _ => ⟨(onward deeds).heard, by simp [plays, playing]⟩,
      fun _ _ ends => by cases ends⟩
  | ended _ _ deeds =>
    refine ⟨(onward deeds).closedDown _, fun goes => (by cases goes), ?_⟩
    rintro _ _ ⟨⟩
    exact ⟨onward deeds, rfl⟩

/-- A packet that is queued takes no leave, unless it is a disconnect. -/
theorem push_stays {packet : Packet} (aside : packet.id ≠ PacketId.disconnect)
    (stays : session.Stays) : (session.move (.push packet)).1.Stays := by
  obtain ⟨client, backend, pending, queued, waiting⟩ := stays
  refine ⟨client, backend, pending, ?_, waiting⟩
  have own : NoFarewells [BatchPacket.made packet] := List.forall_mem_singleton.mpr aside
  have among : (session.client.queue.push (BatchPacket.made packet)).2.1.content ⊆
      session.client.queue.content ++ [BatchPacket.made packet] := by
    unfold OutboundQueue.push
    split
    · exact List.subset_append_left _ _
    · split
      · simp [OutboundQueue.content]
      · simp [OutboundQueue.content, OutboundQueue.overflow]
  exact (noFarewells_append.mpr ⟨queued, own⟩).subset among

/-- A session that is over says nothing more. -/
theorem silent_of_over {on : LinkId → Bool} (moves : List Move) (ended : session.stage = .over) :
    (session.play moves).1.stage = .over ∧ heardOn on (session.play moves).2 = [] := by
  induction moves generalizing session with
  | nil => exact ⟨ended, rfl⟩
  | cons move moves ih =>
    have next : (session.move move).1.stage = .over ∧ heardOn on (session.move move).2 = [] := by
      cases move with
      | push packet => exact ⟨ended, heardOn_counted⟩
      | event event =>
        by_cases gone : ∃ link, event = .severed link
        · obtain ⟨link, rfl⟩ := gone
          simp only [Session.move, handle]
          exact ⟨ended, rfl⟩
        · have same := handle_of_over ended fun link same => gone ⟨link, same⟩
          simp only [Session.move, same]
          exact ⟨ended, rfl⟩
    obtain ⟨stays, silent⟩ := ih next.1
    refine ⟨stays, ?_⟩
    simp only [play, heardOn_append, next.2, silent, List.append_nil]

/-- A move says nothing to the client that takes leave of it, unless the session is over with it;
then the last packet may. -/
theorem move_stays {move : Move} (coherent : session.Coherent) (stays : session.Stays)
    (aside : ∀ packet, move = .push packet → packet.id ≠ PacketId.disconnect) :
    (session.move move).1.Stays ∧
      (NoFarewells (heardOn LinkId.isClient (session.move move).2) ∨
        (session.move move).1.stage = .over ∧
          NoFarewells (heardOn LinkId.isClient (session.move move).2).dropLast) := by
  cases move with
  | push packet =>
    refine ⟨push_stays (aside packet rfl) stays, .inl ?_⟩
    rw [show heardOn LinkId.isClient (session.move (.push packet)).2 = [] from heardOn_counted]
    exact noFarewells_nil
  | event event =>
    obtain ⟨next, goesOn, closes⟩ := (coherent.takes event).stays stays
    refine ⟨next, ?_⟩
    simp only [Session.move]
    cases ending : session.ending event with
    | none => exact .inl (goesOn ending).1
    | some last =>
      obtain ⟨turn, exit⟩ := last
      obtain ⟨stays, same⟩ := closes turn exit ending
      rw [same]
      exact .inr ⟨rfl, stays.closedDown_dropLast exit⟩

/-- What the client hears in a run, and what is in store for it then. -/
theorem Stays.play {moves : List Move} (coherent : session.Coherent) (stays : session.Stays)
    (aside : ∀ packet, .push packet ∈ moves → packet.id ≠ PacketId.disconnect) :
    let last := session.play moves
    last.1.Stays ∧ NoFarewells (heardOn LinkId.isClient last.2).dropLast ∧
      (last.1.stage ≠ .over → NoFarewells (heardOn LinkId.isClient last.2)) := by
  induction moves generalizing session with
  | nil => exact ⟨stays, noFarewells_nil, fun _ => noFarewells_nil⟩
  | cons move moves ih =>
    obtain ⟨next, told⟩ := move_stays coherent stays fun packet same =>
      aside packet (same ▸ List.mem_cons_self)
    obtain ⟨last, ahead, whole⟩ := ih (move_coherent session move coherent) next fun packet mem =>
      aside packet (List.mem_cons_of_mem _ mem)
    refine ⟨last, ?_⟩
    simp only [Session.play, heardOn_append]
    rcases told with told | ⟨ended, told⟩
    · refine ⟨?_, fun goes => noFarewells_append.mpr ⟨told, whole goes⟩⟩
      -- The last packet of all is one of a later move, if the client hears any more.
      cases rest : heardOn LinkId.isClient ((session.move move).1.play moves).2 with
      | nil =>
        rw [List.append_nil]
        exact told.subset (List.dropLast_subset _)
      | cons packet packets =>
        rw [rest] at ahead
        rw [List.dropLast_append_cons]
        exact noFarewells_append.mpr ⟨told, ahead⟩
    · obtain ⟨gone, silent⟩ := @silent_of_over _ LinkId.isClient moves ended
      rw [silent, List.append_nil]
      exact ⟨told, fun goes => absurd gone goes⟩

/-- In every run in which nobody queues such a packet from outside, a packet that takes leave of the
client is written to it once at most, and as the last of all. As long as the session is not closed
down, there is none. With an event with which it is closed down, the client hears, unless its link
is severed, all that was still queued for it and then one packet with the reason, and no link is
left. -/
theorem play_takesLeave (login : LoginData) (services : SessionServices) (client : Connection)
    (initial : Server) (moves : List Move)
    (aside : ∀ packet, .push packet ∈ moves → packet.id ≠ PacketId.disconnect) :
    let opening := (start login services client initial).1
    NoFarewells (heardOn LinkId.isClient (opening.play moves).2).dropLast ∧
      ((opening.play moves).1.stage ≠ .over →
        NoFarewells (heardOn LinkId.isClient (opening.play moves).2)) ∧
      ∀ before event rest, moves = before ++ .event event :: rest →
        let session := (opening.play before).1
        let after := (session.handle event).1
        let heard := heardOn LinkId.isClient (session.handle event).2
        (session.ending event = none →
          NoFarewells heard ∧ (after.stage = .over ↔ session.stage = .over)) ∧
        ∀ turn exit, session.ending event = some (turn, exit) →
          let told := heardOn LinkId.isClient turn.outputs
          let queued := turn.session.client.queue.content
          NoFarewells (told ++ queued) ∧
            heard = told ++
              (if turn.session.client.connection.severed then [] else queued ++ exit.parting) ∧
            after.stage = .over ∧ after.links = [] ∧ after.connecting = none ∧
            heardOn LinkId.isClient (after.play rest).2 = [] := by
  intro opening
  have coherent := start_coherent login services client initial
  have stays := start_stays login services client initial
  obtain ⟨-, ahead, whole⟩ := stays.play coherent aside
  refine ⟨ahead, whole, ?_⟩
  rintro before event rest rfl session after heard
  obtain ⟨here, -, -⟩ := stays.play coherent fun packet mem =>
    aside packet (List.mem_append_left _ mem)
  obtain ⟨-, goesOn, closes⟩ :=
    ((play_coherent login services client initial before).takes event).stays here
  refine ⟨goesOn, ?_⟩
  intro turn exit ends told queued
  obtain ⟨quiet, same⟩ := closes turn exit ends
  have same : session.handle event =
    ((turn.closedDown exit).session, (turn.closedDown exit).outputs) := same
  have spoken : exit.last.toList.map BatchPacket.made = exit.parting := by
    cases exit <;> rfl
  refine ⟨noFarewells_append.mpr ⟨quiet.heard, quiet.session.queued⟩, ?_, ?_⟩
  · simp only [heard, same, quiet.closedDown_heard, spoken]
    rfl
  · have gone : after.stage = .over := by simp only [after, same]; rfl
    refine ⟨gone, ?_, ?_, (silent_of_over rest gone).2⟩
    · simp only [after, same]
      rfl
    · simp only [after, same]
      rfl

/-- The backend sends the player away, which the client is not told, and then the proxy shuts down:
the client hears what was queued for it, and the reason. -/
theorem play_takesLeave_shutdown :
    let kick := Sample.frame [.disconnect (Disconnect.ofMessage "full")]
    let moves : List Move := [.event (.connected 0 (.ok (0, Sample.connection))),
      .event (.backend (some kick)), .push (.stopSound StopSound.all),
      .event (.disconnect .shutdown)]
    let heard := heardOn LinkId.isClient (Sample.session.play moves).2
    (∀ packet, .push packet ∈ moves → packet.id ≠ PacketId.disconnect) ∧
      NoFarewells heard.dropLast ∧
      heard = [.made (.stopSound StopSound.all),
        .made (.disconnect (Disconnect.ofMessage "The proxy is shutting down"))] := by
  intro kick moves heard
  have aside : ∀ packet, .push packet ∈ moves → packet.id ≠ PacketId.disconnect := by
    intro packet mem
    obtain rfl : packet = .stopSound StopSound.all := by simpa [moves] using mem
    decide
  exact ⟨aside, (play_takesLeave _ _ _ _ moves aside).1, by decide +kernel⟩

end Session

end Ferry
