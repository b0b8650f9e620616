import Ferry.Proofs.Transfer.DimensionLock

/-!
# How a new backend is relayed to the client

The packets of a new backend travel to the client in two ways: those that it sends while the
client is on its way out wait, and those that it sends later are passed on at once. In between,
within one event, the client is sent on, all that has waited is released, and the new backend
takes the place of the old one. Nothing is lost, doubled or put in another order by that.
-/

namespace Ferry

namespace Session

variable {session : Session} {link : LinkId}

/-! ## Runs -/

/-- What was passed on does not depend on what was written before. -/
theorem passes_behind {after : Session} {outputs more : List Output}
    {inward outward : List BatchPacket}
    (passes : SessionTurn.Passes ⟨session, []⟩ inward outward ⟨after, more⟩) :
    SessionTurn.Passes ⟨session, outputs⟩ inward outward ⟨after, outputs ++ more⟩ := by
  obtain ⟨tidy, opened, rest, grown, inside, outside⟩ := passes
  exact ⟨tidy, opened, rest, by rw [show more = rest from grown], inside, outside⟩

/-- What a run passes on. -/
theorem play_passes (moves : List Move) (sound : session.Sound) :
    SessionTurn.Passes ⟨session, []⟩ (session.gathered passedIn moves)
      (session.gathered passedOut moves)
      ⟨(session.play moves).1, (session.play moves).2⟩ := by
  induction moves generalizing session with
  | nil => exact .refl sound.tidy
  | cons move moves ih =>
    have next := ih (move_sound session move sound)
    exact (move_passes move sound).trans (passes_behind next)

/-- A run leads to a session that there can be. -/
theorem sound_play (moves : List Move) (sound : session.Sound) : (session.play moves).1.Sound :=
  play_keeps Sound move_sound moves sound

/-- The client hears what a run passes on to it, amid packets of the proxy. -/
theorem amid_play (moves : List Move) (sound : session.Sound) :
    Amid (session.gathered passedIn moves) (heardOn LinkId.isClient (session.play moves).2) ∧
      Amid (session.gathered passedOut moves)
        (heardOn LinkId.isBackend (session.play moves).2) := by
  obtain ⟨more, grown, inside, outside⟩ := (play_passes moves sound).adds
  rw [show (session.play moves).2 = more from grown]
  exact ⟨inside, outside⟩

/-! ## On the way out -/

/-- What waits for a client that has been locked throughout a run is what the new backend has
sent, and nothing was passed on meanwhile. -/
theorem play_locked {moves : List Move} (start : Move) (sound : session.Sound)
    (locked : (session.move start).1.throughout (fun here => here.player.isLocked) moves = true) :
    (session.play (start :: moves)).1.held =
        session.held ++ session.gathered arrived (start :: moves) ∧
      (session.play (start :: moves)).1.pending.map (fun pending => pending.peer.link) =
        session.pending.map (fun pending => pending.peer.link) ∧
      session.gathered passedIn (start :: moves) = [] ∧
      session.gathered passedOut (start :: moves) = [] := by
  induction moves generalizing session start with
  | nil =>
    have leaves := move_leavesLocked sound locked
    have nothing := leaves.unpassed
    simpa [play, gathered, nothing] using ⟨leaves.held, leaves.link⟩
  | cons move moves ih =>
    have leaves := move_leavesLocked sound (throughout_head locked)
    have nothing := leaves.unpassed
    obtain ⟨held, link, inside, outside⟩ :=
      ih move (move_sound session start sound) (throughout_cons.mp locked).2
    refine ⟨?_, link.trans leaves.link, ?_, ?_⟩
    · rw [gathered, ← List.append_assoc, ← leaves.held]
      exact held
    · rw [gathered, nothing.1, inside, List.append_nil]
    · rw [gathered, nothing.2, outside, List.append_nil]

/-! ## The hand-over -/

/-- The frame in which a client says that it has left the old backend: it is sent on to the new
one and then hears all that has waited for it, if it can still be written to. -/
theorem move_handsOver {pending : PendingBackend} {transfer : Transfer} {frame : Bytes}
    (sound : session.Sound) (met : session.pending = some pending)
    (moving : session.player.transfer = some transfer) (locked : transfer.phase = .departing)
    (left : session.askedByClient frame ≠ []) :
    SessionTurn.HandsOver ⟨session, []⟩
        ((session.playerAfterClient frame).arrivalPackets transfer) transfer.waiting.packets
        ⟨(session.move (.event (.client (some frame)))).1,
          (session.move (.event (.client (some frame)))).2⟩ ∧
      (session.move (.event (.client (some frame)))).1.StaysAt pending.peer.link := by
  obtain ⟨playing, going, course⟩ := sound.coherent.of_pending met
  have underway : session.Underway := ⟨playing, fun _ => course⟩
  have handed : (Work.onEvent (.client (some frame))).Leads ⟨session, []⟩ _ _ :=
    Work.handsOver_onClient sound.tidy going underway met moving locked left
  refine handle_of_leads (fun turn => SessionTurn.HandsOver ⟨session, []⟩ _ _ turn ∧
    turn.session.StaysAt pending.peer.link) playing (by simp) (handed.mono ?_ ?_)
  · rintro _ after ⟨handsOver, stays⟩
    refine ⟨fun _ => ⟨handsOver, stays⟩, fun exit _ => ⟨?_, rfl, by rintro _ ⟨⟩⟩⟩
    exact handsOver.then (SessionTurn.closedDown_passes handsOver.passes.tidy)
  · intro _ after handsOver
    refine ⟨?_, rfl, by rintro _ ⟨⟩⟩
    exact handsOver.then (SessionTurn.closedDown_passes handsOver.passes.tidy)

/-! ## On the new backend -/

/-- The packets that a move brings from the backend that the player is on. -/
def live (session : Session) : Move → List BatchPacket
  | .event (.backend (some frame)) =>
    if session.player.isLocked then [] else session.crossedFromBackend frame
  | _ => []

/-- What a move passes on to a client that is free. -/
theorem passedIn_of_free {move : Move} (coherent : session.Coherent)
    (free : session.player.isLocked = false) :
    session.passedIn move = session.ifOpen (session.live move) := by
  have elsewhere (gone : session.backend = none) : session.live move = [] := by
    cases move with
    | push packet => rfl
    | event event =>
      cases event with
      | backend frame => cases frame <;> simp [live, crossedFromBackend, gone]
      | _ => rfl
  cases coherent with
  | closed ended gone => cases move <;> simp [passedIn, ended, elsewhere gone]
  | joining joining bare => cases move <;> simp [passedIn, joining, elsewhere bare.backend]
  | playing playing going course =>
    cases move with
    | push packet => simp [passedIn, live]
    | event event =>
      simp only [passedIn, playing]
      congr 1
      cases event with
      | client frame =>
        cases frame with
        | none => rfl
        | some frame =>
          cases moving : session.player.transfer with
          | none => simp [inward, released, live, moving]
          | some transfer =>
            have left : transfer.isLocked = false := by simpa [Player.isLocked, moving] using free
            simp [inward, released, live, moving, left]
      | backend frame => cases frame <;> rfl
      | _ => rfl

/-- Nothing is passed on to a client that cannot be written to. -/
theorem gathered_passedIn_of_closed {moves : List Move} (sound : session.Sound)
    (closed : session.client.isOpen = false) : session.gathered passedIn moves = [] := by
  induction moves generalizing session with
  | nil => rfl
  | cons move moves ih =>
    have stays : (session.move move).1.client.isOpen = false := by
      cases opened : (session.move move).1.client.isOpen with
      | false => rfl
      | true => exact absurd ((move_passes move sound).opened opened) (by simp [closed])
    rw [gathered, ih (move_sound session move sound) stays, List.append_nil]
    cases move with
    | push packet => rfl
    | event event =>
      simp only [passedIn, ifOpen, closed]
      split <;> rfl

/-- A free client hears all that comes from the backend, as long as it can be written to. -/
theorem gathered_passedIn_of_free {moves : List Move} (sound : session.Sound)
    (free : session.throughout (fun here => !here.player.isLocked) moves = true) :
    session.gathered passedIn moves <+: session.gathered live moves ∧
      ((session.play moves).1.client.isOpen = true →
        session.gathered passedIn moves = session.gathered live moves) := by
  induction moves generalizing session with
  | nil => exact ⟨List.prefix_refl _, fun _ => rfl⟩
  | cons move moves ih =>
    cases opened : session.client.isOpen with
    | false =>
      rw [gathered_passedIn_of_closed sound opened]
      refine ⟨List.nil_prefix, fun last => ?_⟩
      have still := (play_passes (move :: moves) sound).opened last
      exact absurd still (by simp [opened])
    | true =>
      have here : session.passedIn move = session.live move := by
        rw [passedIn_of_free sound.coherent (by simpa using throughout_head free), ifOpen, opened,
          if_pos rfl]
      obtain ⟨first, all⟩ := ih (move_sound session move sound) (throughout_cons.mp free).2
      simp only [gathered, here]
      exact ⟨(List.prefix_append_right_inj _).mpr first, fun last => by rw [all last]⟩

/-- As long as the client is free, no other backend takes the place of the one that it is on. -/
theorem move_at {move : Move} (sound : session.Sound) (joined : session.HasJoined)
    (stays : session.StaysAt link) : (session.move move).1.At link := by
  obtain ⟨coherent, tidy⟩ := sound
  cases move with
  | push packet => exact stays.home
  | event event =>
    simp only [Session.move]
    cases coherent.handling event with
    | severed other =>
      intro backend on
      obtain ⟨there, was, rfl⟩ := Option.map_eq_some_iff.mp on
      dsimp only
      split <;> exact stays.home there was
    | idle _ _ same =>
      rw [same]
      exact stays.home
    | joins joining => exact absurd joining (joined _)
    | plays here playing going course =>
      exact (handle_accounted tidy playing going course here).home stays.free link stays.home

/-- While the client is free, its backend stays on its link. -/
theorem play_at {moves : List Move} (sound : session.Sound) (joined : session.HasJoined)
    (home : session.At link)
    (free : session.throughout (fun here => !here.player.isLocked) moves = true) :
    (session.play moves).1.At link := by
  induction moves generalizing session with
  | nil => exact home
  | cons move moves ih =>
    have stays : session.StaysAt link := ⟨by simpa using throughout_head free, home⟩
    exact ih (move_sound session move sound) (move_hasJoined session move sound.coherent joined)
      (move_at sound joined stays) (throughout_cons.mp free).2

/-- After the hand-over the client hears what has waited for it, and then what comes from the
new backend, as long as it can be written to. -/
theorem play_handedOver {packets : List Packet} {waited : List BatchPacket} {frame : Bytes}
    {after : List Move} (sound : session.Sound)
    (handsOver : SessionTurn.HandsOver ⟨session, []⟩ packets waited
      ⟨(session.move (.event (.client (some frame)))).1,
        (session.move (.event (.client (some frame)))).2⟩)
    (there : (session.move (.event (.client (some frame)))).1.throughout
      (fun here => !here.player.isLocked) after = true) :
    let across := (session.move (.event (.client (some frame)))).1
    (∃ stream heard,
      heardOn LinkId.isClient (session.play (.event (.client (some frame)) :: after)).2 =
        session.ifOpen (packets.map BatchPacket.made) ++ stream ∧
      Amid heard stream ∧ heard <+: waited ++ across.gathered live after ∧
      ((across.play after).1.client.isOpen = true → heard = waited ++ across.gathered live after)) ∧
    Amid (across.gathered passedOut after)
      (heardOn LinkId.isBackend (session.play (.event (.client (some frame)) :: after)).2) := by
  intro across
  have next : across.Sound := move_sound session _ sound
  have opened : across.client.isOpen = true → session.client.isOpen = true :=
    handsOver.passes.opened
  obtain ⟨more, stream, grown, told, relayed, silent⟩ := handsOver.heard
  have grown : (session.move (.event (.client (some frame)))).2 = more := grown
  obtain ⟨heard, answered⟩ := amid_play after next
  obtain ⟨early, all⟩ := gathered_passedIn_of_free next there
  simp only [play, heardOn_append, grown]
  refine ⟨⟨_, _, ?_, relayed.append heard, ?_, fun ends => ?_⟩,
    (amid_nil.mpr silent).append answered⟩
  · rw [← List.append_assoc, ← told]
  · unfold ifOpen
    dsimp only
    split
    · exact (List.prefix_append_right_inj _).mpr early
    next closed =>
      have shut : across.client.isOpen = false := by
        cases alive : across.client.isOpen with
        | false => rfl
        | true => exact absurd (opened alive) closed
      rw [gathered_passedIn_of_closed next shut]
      exact List.nil_prefix
  · have alive := opened ((play_passes after next).opened ends)
    unfold ifOpen
    dsimp only
    rw [if_pos alive, all ends]

/-! ## The rest of a run -/

/-- The packets that a move brings for the client. -/
def brought (session : Session) (move : Move) : List BatchPacket :=
  session.arrived move ++ session.live move

/-- Nothing is held for a client that is free. -/
theorem held_of_free (free : session.player.isLocked = false) : session.held = [] := by
  unfold held
  cases moving : session.player.transfer with
  | none => rfl
  | some transfer =>
    have left : transfer.isLocked = false := by simpa [Player.isLocked, moving] using free
    simp [left]

/-- What a move passes on to the client it has brought, or it has waited; and what waits then
has waited before, or was brought. -/
theorem passedIn_sublist (move : Move) (sound : session.Sound) :
    (session.passedIn move ++ (session.move move).1.held).Sublist
      (session.held ++ session.brought move) := by
  cases locked : (session.move move).1.player.isLocked with
  | true =>
    have leaves := move_leavesLocked sound locked
    rw [leaves.unpassed.1, leaves.held, List.nil_append]
    exact (List.sublist_append_left _ _).append_left _
  | false =>
    have nothing : (session.move move).1.held = [] := held_of_free locked
    rw [nothing, List.append_nil]
    cases bound : session.player.isLocked with
    | false =>
      rw [passedIn_of_free sound.coherent bound, ifOpen]
      split
      · exact (List.sublist_append_right _ _).trans (List.sublist_append_right _ _)
      · exact List.nil_sublist _
    | true =>
      refine List.Sublist.trans ?_ (List.sublist_append_left _ _)
      cases move with
      | push packet => exact List.nil_sublist _
      | event event =>
        simp only [passedIn]
        split
        · unfold ifOpen
          split
          · unfold inward
            split
            · unfold released held
              split
              · split <;> simp_all
              · exact List.nil_sublist _
            · simp [bound]
            · exact List.nil_sublist _
          · exact List.nil_sublist _
        · exact List.nil_sublist _

/-- All that a run passes on to the client has waited, or was brought by the run. -/
theorem gathered_passedIn_sublist {moves : List Move} (sound : session.Sound) :
    (session.gathered passedIn moves).Sublist
      (session.held ++ session.gathered brought moves) := by
  induction moves generalizing session with
  | nil => exact List.nil_sublist _
  | cons move moves ih =>
    have here := passedIn_sublist move sound
    have next := ih (move_sound session move sound)
    refine (next.append_left _).trans ?_
    rw [gathered, ← List.append_assoc, ← List.append_assoc]
    exact here.append_right _

/-! ## Crossing over -/

/-- The session when its client is about to leave the old backend. -/
def leaving (session : Session) (start : Move) (during : List Move) : Session :=
  (session.play (start :: during)).1

/-- The session when its client has just left the old backend. -/
def across (session : Session) (start : Move) (during : List Move) (frame : Bytes) : Session :=
  ((session.leaving start during).move (.event (.client (some frame)))).1

/-- A run in which a player leaves its backend: a move starts the transfer, the client is on its
way out for a while, and then a frame says that it has left the old backend. -/
structure Departs (session : Session) (start : Move) (during : List Move) (frame : Bytes) :
    Prop where
  before : session.player.isLocked = false
  away : (session.move start).1.throughout (fun here => here.player.isLocked) during = true
  left : (session.leaving start during).askedByClient frame ≠ []

/-- A run in which a player moves to another backend: it leaves the old one, and then it is not
sent away again for a while. -/
structure CrossesOver (session : Session) (start : Move) (during : List Move) (frame : Bytes)
    (after : List Move) : Prop extends session.Departs start during frame where
  there : (session.across start during frame).throughout (fun here => !here.player.isLocked)
    after = true

/-- What the new backend sends for the client in such a run. -/
def sentAcross (session : Session) (start : Move) (during : List Move) (frame : Bytes)
    (after : List Move) : List BatchPacket :=
  session.gathered arrived (start :: during) ++
    (session.across start during frame).gathered live after

/-- What is relayed in such a run, and in whatever comes later. -/
structure RelaysAcross (session : Session) (start : Move) (during : List Move) (frame : Bytes)
    (after later : List Move) (pending : PendingBackend) (transfer : Transfer) : Prop where
  /-- The transfer goes to one backend, on one link. -/
  met : session.pending = some pending
  moving : (session.leaving start during).player.transfer = some transfer
  same : (session.leaving start during).pending.map (fun pending => pending.peer.link) =
    some pending.peer.link
  home : ((session.across start during frame).play after).1.At pending.peer.link
  /-- Until the client has left the old backend, no side hears a packet of another one. -/
  apart : AllMade (heardOn LinkId.isClient (session.play (start :: during)).2) ∧
    AllMade (heardOn LinkId.isBackend (session.play (start :: during)).2)
  /-- Then the client is sent on, and after that it hears what the new backend has sent. -/
  relayed : ∃ stream heard,
    heardOn LinkId.isClient ((session.leaving start during).play
        (.event (.client (some frame)) :: after)).2 =
      (session.leaving start during).ifOpen ((((session.leaving start during).playerAfterClient
        frame).arrivalPackets transfer).map BatchPacket.made) ++ stream ∧
    Amid heard stream ∧ heard <+: session.sentAcross start during frame after ∧
    (((session.across start during frame).play after).1.client.isOpen = true →
      heard = session.sentAcross start during frame after)
  /-- The new backend hears what the client sends after it has left the old one. -/
  answered : Amid ((session.across start during frame).gathered passedOut after)
    (heardOn LinkId.isBackend ((session.leaving start during).play
      (.event (.client (some frame)) :: after)).2)
  /-- Whatever comes later, only what is sent then is heard then. -/
  later : ∃ heard,
    Amid heard (heardOn LinkId.isClient
      (((session.across start during frame).play after).1.play later).2) ∧
    heard.Sublist (((session.across start during frame).play after).1.gathered brought later) ∧
    Amid (((session.across start during frame).play after).1.gathered passedOut later)
      (heardOn LinkId.isBackend
        (((session.across start during frame).play after).1.play later).2)

/-- Moving to another backend loses, doubles and reorders nothing of what that sends. -/
theorem play_relays (login : LoginData) (services : SessionServices) (client : Connection)
    (initial : Server) (earlier : List Move) (start : Move) (during : List Move) (frame : Bytes)
    (after later : List Move)
    (crosses : ((Session.start login services client initial).1.play earlier).1.CrossesOver
      start during frame after) :
    ∃ pending transfer,
      ((Session.start login services client initial).1.play earlier).1.RelaysAcross
        start during frame after later pending transfer := by
  have sound := play_sound login services client initial earlier
  generalize ((Session.start login services client initial).1.play earlier).1 = session at *
  obtain ⟨⟨before, away, left⟩, there⟩ := crosses
  obtain ⟨held, link, unheard, unanswered⟩ := play_locked start sound away
  have leaving : (session.leaving start during).Sound := sound_play (start :: during) sound
  have across : (session.across start during frame).Sound := move_sound _ _ leaving
  have locked : (session.leaving start during).player.isLocked = true := throughout_last away
  obtain ⟨playing, pending, transfer, met, moving, phase⟩ := leaving.coherent.of_locked locked
  have waited : transfer.waiting.packets = session.gathered arrived (start :: during) := by
    rw [← held_of_locked moving phase]
    exact held.trans (by rw [held_of_free before, List.nil_append])
  -- The new backend is the one that was there when the transfer started.
  have link : (session.leaving start during).pending.map (fun pending => pending.peer.link) =
      session.pending.map fun pending => pending.peer.link := link
  have same := met ▸ link
  obtain ⟨origin, first, here⟩ := Option.map_eq_some_iff.mp same.symm
  obtain ⟨inside, outside⟩ := amid_play (start :: during) sound
  obtain ⟨handsOver, stays⟩ := move_handsOver leaving met moving phase left
  have joined : (session.across start during frame).HasJoined :=
    move_hasJoined _ _ leaving.coherent (by simp [HasJoined, playing])
  obtain ⟨relayed, answered⟩ := play_handedOver leaving handsOver there
  obtain ⟨further, replied⟩ := amid_play later (sound_play after across)
  refine ⟨origin, transfer, first, moving, ?_, ?_, ⟨?_, ?_⟩, ?_, answered, _, further, ?_, replied⟩
  · rw [met, here]
    rfl
  · rw [here]
    exact play_at across joined stays.home there
  · rw [unheard] at inside
    exact amid_nil.mp inside
  · rw [unanswered] at outside
    exact amid_nil.mp outside
  · rw [waited] at relayed
    exact relayed
  · have settled : ((session.across start during frame).play after).1.held = [] :=
      held_of_free (by simpa using throughout_last there)
    have brought := @gathered_passedIn_sublist _ later (sound_play after across)
    rw [settled, List.nil_append] at brought
    exact brought

/-- The survival server sends a packet before the client has left the lobby, and one after. -/
theorem play_relays_survival :
    let session := (Sample.session.play Sample.moving).1
    let during : List Move := [.event (.pending (some (Sample.frame [.playStatus ⟨3⟩])))]
    let after : List Move := [.event (.backend (some (Sample.frame [.playStatus ⟨3⟩])))]
    session.CrossesOver Sample.spawning during Sample.acknowledged after ∧
      ∃ pending transfer, session.RelaysAcross Sample.spawning during Sample.acknowledged after []
        pending transfer := by
  intro session during after
  have crosses : session.CrossesOver Sample.spawning during Sample.acknowledged after :=
    ⟨⟨by decide +kernel, by decide +kernel, by decide +kernel⟩, by decide +kernel⟩
  exact ⟨crosses, play_relays _ _ _ _ Sample.moving _ _ _ _ [] crosses⟩

/-- An entity that cannot be decoded, which the survival server adds after it has spawned the
player, and which no handler looks at: the client hears what comes behind it, but not that. -/
theorem undecodable_withheld :
    let session := (Sample.session.play Sample.moving).1
    let entity := BatchPacket.received (Header.ofId PacketId.addEntity) []
    let world := Batch.ofPackets [entity, BatchPacket.made (.playStatus ⟨3⟩)]
    let during : List Move :=
      [.event (.pending (some ((FrameCodec.ofVersion .v712).encode world).1))]
    session.CrossesOver Sample.spawning during Sample.acknowledged [] ∧
      Handler.arrival.wants { Sample.pending.arrival with started := true } entity.header.id =
        false ∧
      Waiting.isDropped entity = false ∧
      (session.leaving Sample.spawning during).client.isOpen = true ∧
      (heardOn LinkId.isClient (session.play (Sample.spawning :: during ++
        [.event (.client (some Sample.acknowledged))])).2).all
          (fun packet => packet.header.id ≠ PacketId.addEntity) = true ∧
      (heardOn LinkId.isClient (session.play (Sample.spawning :: during ++
        [.event (.client (some Sample.acknowledged))])).2).any
          (fun packet => packet.header.id = PacketId.playStatus) = true := by
  intro session entity world during
  exact ⟨⟨⟨by decide +kernel, by decide +kernel, by decide +kernel⟩, by decide +kernel⟩,
    by decide, by decide, by decide +kernel, by decide +kernel, by decide +kernel⟩

end Session

end Ferry
