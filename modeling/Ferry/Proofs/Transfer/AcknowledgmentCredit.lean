import Ferry.Proofs.Transfer.Acknowledgment

/-!
# Which change of dimension an acknowledgment is for

Acknowledgments carry no name. A client that acknowledges each change of dimension once, in the
order in which it hears of them, gives its next acknowledgment to the change before which there
were as many others as it has given acknowledgments. The proxy takes the first acknowledgment
after a transfer has started for the one of that transfer, whatever else the client still has
to acknowledge.
-/

namespace Ferry

/-- Whether a packet changes the dimension of the client that hears it. -/
def Packet.isChange (packet : Packet) : Bool := packet.id = PacketId.changeDimension

def BatchPacket.isChange (packet : BatchPacket) : Bool :=
  packet.header.id = PacketId.changeDimension

/-- The acknowledgment that a client gives after some others is for a change of dimension among
some packets of the proxy, which it was told after all that it had heard before. -/
def IsForOneOf (told : List Packet) (heard answered : List BatchPacket) : Prop :=
  ∃ ahead change behind, told = ahead ++ change :: behind ∧ change.isChange = true ∧
    (heard ++ ahead.map BatchPacket.made).countP BatchPacket.isChange = answered.length

/-- Packets of the proxy change the dimension as often as they say. -/
theorem countP_made {packets : List Packet} :
    (packets.map BatchPacket.made).countP BatchPacket.isChange =
      packets.countP Packet.isChange := by
  rw [List.countP_map]
  rfl

/-- An acknowledgment is for the one change of dimension among some packets if the client had
acknowledged all those before. -/
theorem isForOneOf_iff {told : List Packet} {heard answered : List BatchPacket}
    (single : told.countP Packet.isChange ≤ 1) : IsForOneOf told heard answered ↔
      told.countP Packet.isChange = 1 ∧
        heard.countP BatchPacket.isChange = answered.length := by
  constructor
  · rintro ⟨ahead, change, behind, rfl, changes, count⟩
    simp only [List.countP_append, List.countP_cons, changes, countP_made] at *
    simp only [if_true] at *
    omega
  · rintro ⟨once, count⟩
    obtain ⟨change, mem, changes⟩ := List.countP_pos_iff.mp (once ▸ Nat.one_pos)
    obtain ⟨ahead, behind, rfl⟩ := List.append_of_mem mem
    refine ⟨ahead, change, behind, rfl, changes, ?_⟩
    simp only [List.countP_append, List.countP_cons, changes, countP_made] at *
    simp only [if_true] at *
    omega

/-! ## The two changes of a transfer -/

/-- What takes all that the old backend has shown from the client changes no dimension. -/
theorem Scene.countP_teardown {scene : Scene} : scene.teardown.countP Packet.isChange = 0 := by
  rw [List.countP_eq_zero]
  unfold teardown
  intro packet mem
  simp only [List.mem_append, List.mem_map] at mem
  rcases mem with (⟨link, -, rfl⟩ | ⟨uniqueId, -, rfl⟩) | mem
  · simp [Packet.isChange, Packet.id, PacketId.setEntityLink, PacketId.changeDimension]
  · simp [Packet.isChange, Packet.id, PacketId.removeEntity, PacketId.changeDimension]
  · split at mem
    · cases mem
    · cases List.mem_singleton.mp mem
      simp [Packet.isChange, Packet.id, PacketId.playerList, PacketId.changeDimension]

/-- To leave, a client changes its dimension once. -/
theorem Player.countP_departurePackets {player : Player} {transfer : Transfer} :
    (player.departurePackets transfer).countP Packet.isChange = 1 := by
  rfl

/-- To arrive, a client changes its dimension once more, unless it is in the right one. -/
theorem Player.countP_arrivalPackets {player : Player} {transfer : Transfer} :
    (player.arrivalPackets transfer).countP Packet.isChange =
      if transfer.targetDimension = transfer.temporaryDimension then 0 else 1 := by
  unfold arrivalPackets
  dsimp only
  split <;> rfl

namespace Session

variable {session : Session}

/-- What the client is told by the move that starts a transfer: all that the old backend has
shown is taken from it, and then it is sent away. -/
theorem move_sentAway {move : Move} (sound : session.Sound)
    (before : session.player.isLocked = false)
    (locked : (session.move move).1.player.isLocked = true) :
    ∃ scene transfer, (session.move move).1.player.transfer = some transfer ∧
      heardOn LinkId.isClient (session.move move).2 = (Scene.teardown scene ++
        (session.move move).1.player.departurePackets transfer).map BatchPacket.made := by
  rcases (move_leavesLocked sound locked).locked with bound | ⟨frame, rfl⟩
  · cases before.symm.trans bound
  · simp only [Session.move] at locked ⊢
    obtain ⟨coherent, tidy⟩ := sound
    cases coherent.handling (.pending (some frame)) with
    | idle _ _ same =>
      rw [same] at locked
      cases before.symm.trans locked
    | plays here playing going course =>
      refine handle_of_leads (fun turn => turn.session.player.isLocked = true →
        ∃ scene transfer, turn.session.player.transfer = some transfer ∧
          heardOn LinkId.isClient turn.outputs = (Scene.teardown scene ++
            turn.session.player.departurePackets transfer).map BatchPacket.made)
        playing here ?_ locked
      have brings : (Work.onEvent (.pending (some frame))).Leads ⟨session, []⟩ _ _ :=
        Work.brings_onPending tidy going course
      refine brings.mono (fun _ after leads => ⟨fun exit bound => ?_, fun _ _ bound => ?_⟩) ?_
      · obtain ⟨scene, transfer, more, moving, grown, told⟩ := (leads exit bound).sentAway before
        rw [List.nil_append] at grown
        exact ⟨scene, transfer, moving, by rw [grown, told]⟩
      · cases bound
      · intro _ _ _ bound
        exact by cases bound

/-! ## Which acknowledgment is taken for which change -/

/-- The acknowledgments between the one that ends the first phase of a transfer and the one that
ends the transfer, the first included; and the session that the latter leads to. -/
inductive EndsAfter (session : Session) (start : Move) (during : List Move) (frame : Bytes) :
    List BatchPacket → Session → Prop
  /-- Both are in one frame. -/
  | atOnce {first second : BatchPacket} {rest : List BatchPacket}
      (both : (session.leaving start during).answersIn frame = first :: second :: rest) :
      EndsAfter session start during frame [first] (session.across start during frame)
  /-- The client is on its way in for a while. -/
  | later {between : List Move} {arrival : Bytes}
      (arriving : (session.across start during frame).throughout isArriving between = true)
      (answered : ((session.across start during frame).play between).1.answersIn arrival ≠ []) :
      EndsAfter session start during frame
        ((session.leaving start during).answersIn frame ++
          (session.across start during frame).gathered answers between)
        (((session.across start during frame).play between).1.move
          (.event (.client (some arrival)))).1

/-- Between the two acknowledgments there is no other. -/
theorem EndsAfter.single {start : Move} {during : List Move} {frame : Bytes}
    {others : List BatchPacket} {last : Session} (sound : session.Sound)
    (departs : session.Departs start during frame)
    (ends : session.EndsAfter start during frame others last) :
    others.length = 1 ∧ last.player.transfer = none := by
  obtain ⟨before, away, left⟩ := departs
  have leaving : (session.leaving start during).Sound := sound_play (start :: during) sound
  have across : (session.across start during frame).Sound := move_sound _ _ leaving
  have locked : (session.leaving start during).player.isLocked = true := throughout_last away
  obtain ⟨-, pending, transfer, met, moving, phase⟩ := leaving.coherent.of_locked locked
  have given : (session.leaving start during).answersIn frame ≠ [] := by
    rw [askedByClient_of_moving (by rw [moving]; rfl)] at left
    simpa using left
  cases ends with
  | atOnce both =>
    have twice : 2 ≤ ((session.leaving start during).answersIn frame).length := by simp [both]
    exact ⟨rfl, move_ends leaving.coherent moving (.inr ⟨phase, twice⟩)⟩
  | @later between arrival arriving answered =>
    have silent := gathered_answers_of_arriving across.coherent arriving
    constructor
    · rw [silent, List.append_nil]
      rcases Nat.lt_or_ge ((session.leaving start during).answersIn frame).length 2 with few | twice
      · have one : 0 < ((session.leaving start during).answersIn frame).length :=
          List.length_pos_iff.mpr given
        omega
      · have ended : (session.across start during frame).player.transfer = none :=
          move_ends leaving.coherent moving (.inr ⟨phase, twice⟩)
        have stays := throughout_head arriving
        simp [isArriving, ended] at stays
    · obtain ⟨onward, moves, goesIn⟩ : ∃ onward,
          ((session.across start during frame).play between).1.player.transfer = some onward ∧
            onward.phase = .arriving := by
        simpa [isArriving, Option.any_eq_true] using throughout_last arriving
      exact move_ends (sound_play between across).coherent moves (.inl ⟨goesIn, answered⟩)

/-- After every run, the acknowledgment that ends the first phase of a transfer is for the first
change of dimension of that transfer exactly where the client had acknowledged all changes that
it had heard of when the transfer started. The one that ends the transfer is for the second
change exactly where there is one, and the client had heard of one change more, when it left,
than it had acknowledged when the transfer started. -/
theorem play_acknowledged (login : LoginData) (services : SessionServices) (client : Connection)
    (initial : Server) (earlier : List Move) (start : Move) (during : List Move) (frame : Bytes)
    (departs : ((Session.start login services client initial).1.play earlier).1.Departs
      start during frame) :
    let base := (Session.start login services client initial).1
    let session := (base.play earlier).1
    let leaving := session.leaving start during
    let heard := heardOn LinkId.isClient (base.play earlier).2
    let heardThen := heardOn LinkId.isClient (base.play (earlier ++ start :: during)).2
    let given := base.gathered answers earlier
    let givenThen := base.gathered answers (earlier ++ start :: during)
    ∃ scene started transfer stream,
      -- What the client is told when the transfer starts, and when it has left.
      let departure := Scene.teardown scene ++
        (session.move start).1.player.departurePackets started
      let arrival := (leaving.playerAfterClient frame).arrivalPackets transfer
      (session.move start).1.player.transfer = some started ∧
      heardOn LinkId.isClient (session.move start).2 = departure.map BatchPacket.made ∧
      leaving.player.transfer = some transfer ∧
      heardOn LinkId.isClient (leaving.move (.event (.client (some frame)))).2 =
        leaving.ifOpen (arrival.map BatchPacket.made) ++ stream ∧
      -- The first phase is over.
      (session.across start during frame).player.isLocked = false ∧
      (IsForOneOf departure heard givenThen ↔
        heard.countP BatchPacket.isChange = given.length) ∧
      -- The transfer is over.
      ∀ others last, session.EndsAfter start during frame others last →
        last.player.transfer = none ∧
        (IsForOneOf arrival heardThen (givenThen ++ others) ↔
          transfer.targetDimension ≠ transfer.temporaryDimension ∧
            heardThen.countP BatchPacket.isChange = given.length + 1) := by
  intro base session leaving heard heardThen given givenThen
  have sound : session.Sound := play_sound login services client initial earlier
  have left : leaving.Sound := sound_play (start :: during) sound
  have locked : leaving.player.isLocked = true := throughout_last departs.away
  obtain ⟨-, pending, transfer, met, moving, phase⟩ := left.coherent.of_locked locked
  obtain ⟨scene, started, began, told⟩ :=
    move_sentAway sound departs.before (throughout_head departs.away)
  obtain ⟨handsOver, stays⟩ := move_handsOver left met moving phase departs.left
  obtain ⟨more, stream, grown, arrived, -, -⟩ := handsOver.heard
  have grown : (leaving.move (.event (.client (some frame)))).2 = more := grown
  -- On its way out the client acknowledges nothing.
  have same : givenThen = given := by
    have silent := gathered_answers_of_locked start sound departs.away
    simp only [givenThen, given, gathered_append]
    exact (congrArg _ silent).trans (List.append_nil _)
  refine ⟨scene, started, transfer, stream, began, told, moving, by rw [grown]; exact arrived,
    stays.free, ?_, ?_⟩
  · have once : (scene.teardown ++ (session.move start).1.player.departurePackets started).countP
        Packet.isChange = 1 := by
      rw [List.countP_append, Scene.countP_teardown, Player.countP_departurePackets]
    rw [same, isForOneOf_iff (Nat.le_of_eq once), once]
    simp
  · intro others last ends
    obtain ⟨one, done⟩ := ends.single sound departs
    have count := @Player.countP_arrivalPackets (leaving.playerAfterClient frame) transfer
    refine ⟨done, ?_⟩
    rw [same, isForOneOf_iff (by rw [count]; split <;> decide), count, List.length_append, one]
    split
    next equal => simp [equal]
    next differ => simp [differ]

/-- The client has heard of no change before it is moved to the survival server. -/
theorem play_acknowledged_survival :
    let session := (Sample.session.play Sample.moving).1
    session.Departs Sample.spawning [] Sample.acknowledged ∧
      ∃ departure, heardOn LinkId.isClient (session.move Sample.spawning).2 =
          departure.map BatchPacket.made ∧
        IsForOneOf departure (heardOn LinkId.isClient (Sample.session.play Sample.moving).2)
          (Sample.session.gathered answers (Sample.moving ++ [Sample.spawning])) := by
  intro session
  have departs : session.Departs Sample.spawning [] Sample.acknowledged :=
    ⟨by decide +kernel, by decide +kernel, by decide +kernel⟩
  obtain ⟨scene, started, transfer, stream, -, told, -, -, -, first, -⟩ :=
    play_acknowledged _ _ _ _ Sample.moving _ _ _ departs
  exact ⟨departs, _, told, first.mpr (by decide +kernel)⟩

/-- The lobby has changed the client's dimension, and the client has not acknowledged that when
it is moved to the survival server. Its acknowledgment, the first that it gives, is for the
first change that it has heard of, which is the lobby's. But it ends the first phase. -/
theorem foreign_acknowledged :
    let change : ChangeDimension := ⟨1, Vector.zero, false, none⟩
    let earlier : List Move :=
      Sample.moving ++ [.event (.backend (some (Sample.frame [.changeDimension change])))]
    let session := (Sample.session.play earlier).1
    let heard := heardOn LinkId.isClient (Sample.session.play earlier).2
    session.Departs Sample.spawning [] Sample.acknowledged ∧
      (session.leaving Sample.spawning []).client.isOpen = true ∧
      heard.countP BatchPacket.isChange = 1 ∧
      Sample.session.gathered answers (earlier ++ [Sample.spawning]) = [] ∧
      ((session.leaving Sample.spawning []).answersIn Sample.acknowledged).length = 1 ∧
      (session.across Sample.spawning [] Sample.acknowledged).isArriving = true ∧
      ∀ told, ¬IsForOneOf told heard [] := by
  intro change earlier session heard
  have once : heard.countP BatchPacket.isChange = 1 := by decide +kernel
  refine ⟨⟨by decide +kernel, by decide +kernel, by decide +kernel⟩, by decide +kernel, once,
    by decide +kernel, by decide +kernel, by decide +kernel, ?_⟩
  rintro told ⟨ahead, packet, behind, -, -, count⟩
  rw [List.countP_append, once] at count
  simp at count

end Session

end Ferry
