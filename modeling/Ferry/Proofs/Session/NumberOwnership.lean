import Ferry.Proofs.Session.NumberAuthority
import Ferry.Proofs.Session.BackendRelay

/-!
# Every packet in its own backend's numbers

Along a whole run, a packet that is let through between the client and a backend is carried by the
mapping that has come of the adoptions so far, and the last of these was of that very backend. What
the client and the backends hear are such packets, each backend those that were carried for it, and
packets that the proxy has made itself.
-/

namespace Ferry

namespace Session

variable {session : Session} {clientIds : Option PlayerIds} {log : List Entry}
  {last : Option Adoption}

/-! ## One move -/

/-- Whether a backend that was adopted last is the one whose numbers are to hold, if there is still
one. -/
def Obeys (session : Session) (last : Option Adoption) : Prop :=
  ∀ adoption, last = some adoption →
    session.authority = none ∨ session.authority = some adoption.backend

/-- What the client and its backend send each other is put into that backend's numbers. -/
theorem Obeys.endpoint {backend : Endpoint} (obeys : session.Obeys last)
    (here : session.authority = some backend) :
    ∀ adoption, last = some adoption → adoption.backend = backend := by
  intro adoption same
  rcases obeys adoption same with gone | there
  · cases here.symm.trans gone
  · exact Option.some.inj (there.symm.trans here)

/-- With each move, packets are put into the numbers of their own backend. -/
theorem move_allOwn (move : Move) (coherent : session.Coherent) (obeys : session.Obeys last) :
    AllOwn session.player.mapping last (session.log move) := by
  cases session.logged move with
  | nothing empty =>
    rw [empty]
    trivial
  | fromClient on free decoded =>
    exact (client_isLog on free decoded).own last (obeys.endpoint (authority_of_backend on free))
  | fromBackend on free decoded =>
    exact (backend_isLog on free decoded).own last (obeys.endpoint (authority_of_backend on free))
  | @fromPending pending _ _ met decoded =>
    obtain ⟨-, -, course⟩ := coherent.of_pending met
    rcases course.of_pending met with ⟨login, -⟩ | ⟨transfer, -, moving, away, -⟩
    · exact (log_of_login met login decoded).1
    · exact (pending_isLog met decoded).own last
        (obeys.endpoint (authority_of_pending met moving away))

/-! ## Runs -/

/-- A session that has come to what a log says: its mapping is what has come of the adoptions, and
the last of them was of the backend whose numbers are to hold. Nobody is adopted before it has
joined. -/
structure Follows (session : Session) (clientIds : Option PlayerIds) (log : List Entry) :
    Prop where
  mapping : session.player.mapping = (adoptions log).foldl Mapping.adopting (.start clientIds)
  obeys : session.Obeys (adoptions log).getLast?
  joined : adoptions log = [] ∨ session.HasJoined

/-- Until it has joined, nothing happens to a session's numbers. -/
theorem move_of_joining {server : Server} (move : Move) (coherent : session.Coherent)
    (joining : session.stage = .joining server) :
    session.log move = [] ∧ (session.move move).1.player.mapping = session.player.mapping := by
  cases coherent with
  | closed ended => cases joining.symm.trans ended
  | playing playing => cases joining.symm.trans playing
  | joining _ bare =>
    cases move with
    | push packet => exact ⟨rfl, rfl⟩
    | event event =>
      refine ⟨log_of_unmet bare.backend bare.pending, ?_⟩
      simp only [Session.move]
      by_cases here : ∀ link, event ≠ .severed link
      · rcases handle_of_joining joining here with same | ⟨result, rfl, same⟩
        · rw [same]
        · rw [same]
          cases result with
          | ok there => rfl
          | error message =>
            simp only [join, after_shutdown]
            rfl
      · obtain ⟨link, rfl⟩ : ∃ link, event = .severed link := by simpa using here
        simp only [handle]
        rfl

/-- A session follows its log from move to move. -/
theorem move_follows (move : Move) (coherent : session.Coherent)
    (follows : session.Follows clientIds log) :
    (session.move move).1.Follows clientIds (log ++ session.log move) := by
  by_cases joined : session.HasJoined
  · have heeds := move_heeds move coherent joined
    refine ⟨?_, ?_, .inr (move_hasJoined session move coherent joined)⟩
    · rw [adoptions_append, List.foldl_append, ← follows.mapping]
      exact heeds.mapping
    · intro adoption same
      rw [adoptions_append, List.getLast?_append] at same
      rcases heeds.authority with gone | there
      · exact .inl gone
      · rw [there]
        cases latest : (adoptions (session.log move)).getLast? with
        | some newer =>
          rw [latest] at same
          cases same
          exact .inr rfl
        | none =>
          rw [latest] at same
          exact follows.obeys adoption same
  · obtain ⟨server, joining⟩ : ∃ server, session.stage = .joining server := by
      simpa [HasJoined] using joined
    obtain ⟨nothing, still⟩ := move_of_joining move coherent joining
    have nobody : adoptions log = [] := follows.joined.resolve_right joined
    refine ⟨?_, ?_, .inl ?_⟩
    · rw [nothing, List.append_nil, still]
      exact follows.mapping
    · intro adoption same
      simp [nothing, nobody] at same
    · rw [nothing, List.append_nil, nobody]

/-- Along a run, packets are put into the numbers of their own backend. -/
theorem play_follows (moves : List Move) (coherent : session.Coherent)
    (follows : session.Follows clientIds log) (own : AllOwn (.start clientIds) none log) :
    (session.play moves).1.Follows clientIds (log ++ session.gathered Session.log moves) ∧
      AllOwn (.start clientIds) none (log ++ session.gathered Session.log moves) := by
  induction moves generalizing session log with
  | nil => simpa [gathered, play] using ⟨follows, own⟩
  | cons move moves ih =>
    have onward : AllOwn (.start clientIds) none (log ++ session.log move) := by
      refine allOwn_append.mpr ⟨own, ?_⟩
      rw [← follows.mapping, Option.or_none]
      exact move_allOwn move coherent follows.obeys
    rw [gathered, ← List.append_assoc]
    exact ih (move_coherent session move coherent) (move_follows move coherent follows) onward

/-! ## What is heard -/

variable {frame : Bytes} {packet : BatchPacket}

/-- What a free client gets from its backend is noted as carried to it. -/
theorem carried_of_crossedFromBackend (free : session.player.isLocked = false)
    (mem : packet ∈ session.crossedFromBackend frame) :
    ∃ carriage ∈ carriages (session.log (.event (.backend (some frame)))),
      carriage.direction = .clientbound ∧ carriage.passed = packet := by
  unfold crossedFromBackend at mem
  cases on : session.backend with
  | none => simp [on] at mem
  | some backend =>
    cases decoded : (backend.peer.connection.decode frame).1 with
    | error fault => simp [on, decoded] at mem
    | ok batch =>
      have crossed : packet ∈ (session.fromBackend backend batch).batch.packets := by
        simpa [on, decoded] using mem
      obtain ⟨carriage, noted, -, carried⟩ :=
        (backend_isLog on free decoded).carriage_of_mem crossed
      exact ⟨carriage, noted, carried⟩

/-- What waits for the client is noted as carried to it. -/
theorem carried_of_arrivals (mem : packet ∈ session.arrivals frame) :
    ∃ carriage ∈ carriages (session.log (.event (.pending (some frame)))),
      carriage.direction = .clientbound ∧ carriage.passed = packet := by
  unfold arrivals at mem
  cases met : session.pending with
  | none => simp [met] at mem
  | some pending =>
    cases decoded : (pending.peer.connection.decode frame).1 with
    | error fault => simp [met, decoded] at mem
    | ok batch =>
      have crossed : packet ∈ (session.fromPending pending batch).batch.packets := by
        rw [fromPending_packets]
        simp only [met, decoded] at mem
        exact (List.mem_filter.mp mem).1
      obtain ⟨carriage, noted, -, carried⟩ := (pending_isLog met decoded).carriage_of_mem crossed
      exact ⟨carriage, noted, carried⟩

/-- What a move brings for the client was carried. -/
theorem carried_of_brought {move : Move} (mem : packet ∈ session.brought move) :
    ∃ carriage ∈ carriages (session.log move),
      carriage.direction = .clientbound ∧ carriage.passed = packet := by
  unfold brought at mem
  rcases List.mem_append.mp mem with mem | mem
  · unfold arrived at mem
    split at mem
    · exact carried_of_arrivals mem
    · cases mem
  · unfold live at mem
    split at mem
    · split at mem
      · cases mem
      next free => exact carried_of_crossedFromBackend (by simpa using free) mem
    · cases mem

/-- What a run brings for the client was carried. -/
theorem carried_of_gathered {moves : List Move}
    (mem : packet ∈ session.gathered brought moves) :
    ∃ carriage ∈ carriages (session.gathered Session.log moves),
      carriage.direction = .clientbound ∧ carriage.passed = packet := by
  induction moves generalizing session with
  | nil => cases mem
  | cons move moves ih =>
    rw [gathered, carriages_append]
    rw [gathered] at mem
    rcases List.mem_append.mp mem with mem | mem
    · obtain ⟨carriage, noted, rest⟩ := carried_of_brought mem
      exact ⟨carriage, List.mem_append_left _ noted, rest⟩
    · obtain ⟨carriage, noted, rest⟩ := ih mem
      exact ⟨carriage, List.mem_append_right _ noted, rest⟩

end Session

/-! ### On the link of a backend -/

/-- What is heard on some links is heard on more of them. -/
theorem heardOn_subset {on wider : LinkId → Bool} {outputs : List Output}
    (more : ∀ link, on link = true → wider link = true) :
    heardOn on outputs ⊆ heardOn wider outputs := by
  induction outputs with
  | nil => exact List.Subset.refl _
  | cons output outputs ih =>
    cases output with
    | written link batch frame =>
      rw [heardOn_written, heardOn_written]
      refine List.append_subset.mpr ⟨?_, List.subset_append_of_subset_right _ ih⟩
      split
      next here =>
        rw [if_pos (more link here)]
        exact List.subset_append_left _ _
      · exact List.nil_subset _
    | _ => exact ih

/-- A packet of a stream was passed on, or the proxy has made it. -/
theorem Amid.of_mem {passed stream : List BatchPacket} {packet : BatchPacket}
    (amid : Amid passed stream) (mem : packet ∈ stream) : packet.IsMade ∨ packet ∈ passed := by
  induction amid with
  | nil => cases mem
  | made own _ ih =>
    rcases List.mem_cons.mp mem with rfl | mem
    · exact .inl own
    · exact ih mem
  | passed _ ih =>
    rcases List.mem_cons.mp mem with rfl | mem
    · exact .inr List.mem_cons_self
    · exact (ih mem).imp_right (List.mem_cons_of_mem _)

/-- Whether a link is one and the same as another. -/
def LinkId.is (link other : LinkId) : Bool := other = link

/-- From one turn to another, nothing was written to a link but what the proxy has made itself. -/
def SessionTurn.Spares (turn : SessionTurn) (link : LinkId) (after : SessionTurn) : Prop :=
  ∃ more, after.outputs = turn.outputs ++ more ∧ AllMade (heardOn link.is more)

namespace SessionTurn

variable {turn middle after : SessionTurn} {link : LinkId} {inward : List BatchPacket}

/-- A link that is spared twice is spared. -/
theorem Spares.trans (here : turn.Spares link middle) (next : middle.Spares link after) :
    turn.Spares link after := by
  obtain ⟨more, grown, made⟩ := here
  obtain ⟨rest, last, further⟩ := next
  exact ⟨more ++ rest, by rw [last, grown, List.append_assoc],
    by rw [heardOn_append]; exact allMade_append.mpr ⟨made, further⟩⟩

/-- Where no packet of the client is passed on, all links to backends are spared. -/
theorem Passes.spares (passes : turn.Passes inward [] after) (away : link.isBackend = true) :
    turn.Spares link after := by
  obtain ⟨more, grown, -, outside⟩ := passes.adds
  refine ⟨more, grown, fun packet mem => amid_nil.mp outside packet (heardOn_subset ?_ mem)⟩
  intro other same
  have same : other = link := by simpa [LinkId.is] using same
  rw [same]
  exact away

end SessionTurn

namespace Work

variable {turn : SessionTurn} {frame : Bytes} {link : LinkId}

/-- A batch for the backend is written to no other link. -/
theorem spares_toBackend {backend : Backend} {batch : Batch} (tidy : turn.session.Tidy)
    (free : turn.session.player.isLocked = false) (on : turn.session.backend = some backend)
    (other : link ≠ backend.peer.link) :
    (toBackend fun peer => peer.write batch).Leads turn (fun _ after => turn.Spares link after)
      fun _ after => turn.Spares link after := by
  have elsewhere : link.is backend.peer.link = false := by
    simpa [LinkId.is] using fun same => other same.symm
  have spares : turn.Spares link
      ⟨{ turn.session with
          backend := some { backend with peer := (backend.peer.write batch).2.1 } },
        turn.outputs ++ (backend.peer.write batch).2.2⟩ := by
    refine ⟨_, rfl, ?_⟩
    rw [Peer.heardOn_write (.inr (tidy.active backend on free)), elsewhere]
    exact allMade_nil
  rw [leads_toBackend on, leads_check]
  split <;> exact spares

/-- What a free client sends is written to no link but that of its backend. -/
theorem spares_onClient {backend : Backend} (tidy : turn.session.Tidy)
    (isFree : turn.session.IsFree) (on : turn.session.backend = some backend)
    (away : link.isBackend = true) (other : link ≠ backend.peer.link) :
    (onClient frame).Leads turn (fun _ after => after.session.Tidy ∧ turn.Spares link after)
      fun _ after => after.session.Tidy ∧ turn.Spares link after := by
  cases decoded : (turn.session.client.connection.decode frame).1 with
  | error fault =>
    exact (quiet_onClient_of_error tidy decoded).mono
      (fun _ _ next => ⟨next.passes.tidy, next.passes.spares away⟩)
      fun _ _ next => ⟨next.passes.tidy, next.passes.spares away⟩
  | ok batch =>
    have took := @tookFromClient_proceeds turn frame batch tidy
    obtain ⟨same, asked⟩ := @process_client .serverbound turn.session.client.connection.version
      turn.session.player batch
    have still : (turn.tookFromClient frame batch).session.IsFree :=
      isFree.congr rfl rfl rfl rfl rfl same
    have queued : (turn.session.fromClient batch).batch.skipQueue = false :=
      Bridge.process_skipQueue.trans (Connection.decode_skipQueue decoded)
    have spared := took.passes.spares away
    have written : (if !(turn.session.fromClient batch).batch.packets.isEmpty &&
          !(turn.session.fromClient batch).player.isLocked then
        toBackend fun peer => peer.write (turn.session.fromClient batch).batch
      else pure ()).Leads (turn.tookFromClient frame batch)
        (fun _ after => (after.session.Tidy ∧ turn.Spares link after) ∧ after.session.IsFree)
        fun _ after => after.session.Tidy ∧ turn.Spares link after := by
      split
      · refine (((passes_toBackend took.passes.tidy still.free queued).and
          (spares_toBackend took.passes.tidy still.free on other)).and
          (leads_toBackend_keeps Session.IsFree still fun backend on peer =>
            still.congr rfl rfl (by simp [on]) rfl rfl rfl)).mono ?_ ?_
        · rintro _ after ⟨⟨accounted, next⟩, kept⟩
          exact ⟨⟨accounted.passes.tidy, spared.trans next⟩, kept⟩
        · rintro _ after ⟨⟨accounted, next⟩, -⟩
          exact ⟨accounted.passes.tidy, spared.trans next⟩
      · exact ⟨⟨took.passes.tidy, spared⟩, still⟩
    refine (leads_onClient decoded).mpr (written.mono ?_ fun _ _ here => here)
    rintro _ after ⟨⟨tidied, before⟩, going, underway, free⟩
    have quiet : (actAll .client (turn.session.fromClient batch).actions).Quiet after :=
      quiet_actAll tidied going underway free fun action mem => .inl (asked action mem)
    exact quiet.mono
      (fun _ _ next => ⟨next.passes.tidy, before.trans (next.passes.spares away)⟩)
      fun _ _ next => ⟨next.passes.tidy, before.trans (next.passes.spares away)⟩

end Work

namespace Session

variable {session : Session} {frame : Bytes} {packet : BatchPacket} {link : LinkId}

/-- A move that passes something on to a backend is a frame of a free client. -/
theorem client_of_passedOut {move : Move} (passed : session.passedOut move ≠ []) :
    ∃ frame backend batch, move = .event (.client (.some frame)) ∧ session.stage = .playing ∧
      session.backend = .some backend ∧ session.player.isLocked = false ∧
      (session.client.connection.decode frame).1 = .ok batch ∧
      session.passedOut move ⊆ (session.fromClient batch).batch.packets := by
  unfold passedOut at *
  split at passed
  next event =>
    split at passed
    next playing =>
      unfold ifServed outward at *
      cases on : session.backend with
      | none => simp [on] at passed
      | some backend =>
        split at passed
        next opened =>
          split at passed
          next frame =>
            split at passed
            · exact absurd rfl passed
            next free =>
              unfold crossedFromClient at passed
              cases decoded : (session.client.connection.decode frame).1 with
              | error fault => simp [decoded] at passed
              | ok batch =>
                refine ⟨frame, backend, batch, rfl, playing, rfl, by simpa using free, decoded, ?_⟩
                simp only [free, crossedFromClient, decoded]
                split
                · exact List.Subset.refl _
                · exact List.nil_subset _
          · exact absurd rfl passed
        · exact absurd rfl passed
    · exact absurd rfl passed
  · exact absurd rfl passed

/-- With a frame of a free client all links but that of its backend are spared. -/
theorem handle_spares {backend : Backend} (sound : session.Sound)
    (playing : session.stage = .playing) (on : session.backend = some backend)
    (free : session.player.isLocked = false) (away : link.isBackend = true)
    (other : link ≠ backend.peer.link) :
    SessionTurn.Spares ⟨session, []⟩ link ⟨(session.handle (.client (some frame))).1,
      (session.handle (.client (some frame))).2⟩ := by
  obtain ⟨going, course⟩ := sound.coherent.of_playing playing
  have spares : (Work.onEvent (.client (some frame))).Leads ⟨session, []⟩ _ _ :=
    Work.spares_onClient sound.tidy ⟨going, ⟨playing, fun _ => course⟩, free⟩ on away other
  refine handle_of_leads (fun turn => SessionTurn.Spares ⟨session, []⟩ link turn) playing
    (by simp) (spares.mono ?_ ?_)
  · rintro _ after ⟨tidied, before⟩
    exact ⟨fun _ => before, fun _ _ =>
      before.trans ((SessionTurn.closedDown_passes tidied).spares away)⟩
  · rintro _ after ⟨tidied, before⟩
    exact before.trans ((SessionTurn.closedDown_passes tidied).spares away)

/-- What a backend hears of a move was carried for it, or the proxy has made it. -/
theorem carried_of_heard {move : Move} (sound : session.Sound) (away : link.isBackend = true)
    (mem : packet ∈ heardOn link.is (session.move move).2) :
    packet.IsMade ∨ ∃ carriage ∈ carriages (session.log move),
      carriage.direction = .serverbound ∧ carriage.backend.link = link ∧
        carriage.passed = packet := by
  have passes := move_passes move sound
  by_cases nothing : session.passedOut move = []
  · rw [nothing] at passes
    obtain ⟨more, grown, made⟩ := passes.spares away
    have grown : (session.move move).2 = more := grown
    rw [grown] at mem
    exact .inl (made packet mem)
  · obtain ⟨frame, backend, batch, rfl, playing, on, free, decoded, among⟩ :=
      client_of_passedOut nothing
    by_cases same : link = backend.peer.link
    · obtain ⟨more, grown, -, outside⟩ := passes.adds
      have grown : (session.move (.event (.client (some frame)))).2 = more := grown
      rw [grown] at mem
      have heard : packet ∈ heardOn LinkId.isBackend more := by
        refine heardOn_subset ?_ mem
        intro other is
        rw [show other = link by simpa [LinkId.is] using is]
        exact away
      refine (outside.of_mem heard).imp_right fun passed => ?_
      obtain ⟨carriage, noted, ends, direction, carried⟩ :=
        (client_isLog on free decoded).carriage_of_mem (among passed)
      exact ⟨carriage, noted, direction, by rw [ends, same]; rfl, carried⟩
    · obtain ⟨more, grown, made⟩ : SessionTurn.Spares ⟨session, []⟩ link
          ⟨(session.handle (.client (some frame))).1, (session.handle (.client (some frame))).2⟩ :=
        handle_spares sound playing on free away same
      have grown : (session.move (.event (.client (some frame)))).2 = more := grown
      rw [grown] at mem
      exact .inl (made packet mem)

/-- What a backend hears along a run was carried for it, or the proxy has made it. -/
theorem carried_of_heard_play {moves : List Move} (sound : session.Sound)
    (away : link.isBackend = true) (mem : packet ∈ heardOn link.is (session.play moves).2) :
    packet.IsMade ∨ ∃ carriage ∈ carriages (session.gathered Session.log moves),
      carriage.direction = .serverbound ∧ carriage.backend.link = link ∧
        carriage.passed = packet := by
  induction moves generalizing session with
  | nil => cases mem
  | cons move moves ih =>
    rw [gathered, carriages_append]
    simp only [play, heardOn_append] at mem
    rcases List.mem_append.mp mem with mem | mem
    · refine (carried_of_heard sound away mem).imp_right ?_
      rintro ⟨carriage, noted, rest⟩
      exact ⟨carriage, List.mem_append_left _ noted, rest⟩
    · refine (ih (move_sound session move sound) mem).imp_right ?_
      rintro ⟨carriage, noted, rest⟩
      exact ⟨carriage, List.mem_append_right _ noted, rest⟩

/-- How packets travel along a run. -/
structure RendersOwn (opening : Session) (clientIds : Option PlayerIds) (moves : List Move) :
    Prop where
  /-- The numbers that hold in the end are what has come of all adoptions, and of nothing else. -/
  mapping : (opening.play moves).1.player.mapping =
    (adoptions (opening.gathered log moves)).foldl Mapping.adopting (.start clientIds)
  /-- A packet is carried by the mapping that the adoptions before it have led to, the last of which
  was of the backend that the packet comes from or goes to. -/
  carried : ∀ earlier carriage later,
    opening.gathered log moves = earlier ++ .carried carriage :: later →
      carriage.IsOwn ((adoptions earlier).foldl Mapping.adopting (.start clientIds))
        (adoptions earlier).getLast?
  /-- The client hears what was carried for it. -/
  heard : ∀ packet ∈ heardOn LinkId.isClient (opening.play moves).2,
    packet.IsMade ∨ ∃ carriage ∈ carriages (opening.gathered log moves),
      carriage.direction = .clientbound ∧ carriage.passed = packet
  /-- A backend hears what was carried for that backend. -/
  answered : ∀ link, link.isBackend = true → ∀ packet ∈ heardOn link.is (opening.play moves).2,
    packet.IsMade ∨ ∃ carriage ∈ carriages (opening.gathered log moves),
      carriage.direction = .serverbound ∧ carriage.backend.link = link ∧ carriage.passed = packet

/-- No packet is put into the numbers of another backend than its own. -/
theorem play_rendersOwn (login : LoginData) (services : SessionServices) (client : Connection)
    (initial : Server) (moves : List Move) :
    (start login services client initial).1.RendersOwn login.clientIds moves := by
  have sound : (start login services client initial).1.Sound :=
    play_sound login services client initial []
  obtain ⟨follows, own⟩ := @play_follows _ login.clientIds [] moves sound.coherent
    ⟨rfl, by rintro _ ⟨⟩, .inl rfl⟩ trivial
  refine ⟨follows.mapping, ?_, ?_, ?_⟩
  · intro earlier carriage later noted
    rw [List.nil_append, noted] at own
    simpa using own.at
  · intro packet mem
    refine ((amid_play moves sound).1.of_mem mem).imp_right fun passed => ?_
    have brought := (gathered_passedIn_sublist sound).subset passed
    exact carried_of_gathered (by simpa [held, start, Player.start] using brought)
  · exact fun link away packet mem => carried_of_heard_play sound away mem

/-- The lobby knows the player as entity 1, and so does the client; the survival server knows it as
entity 5. What that removes and what the client does both travel in the numbers of the survival
server. -/
theorem play_rendersOwn_survival :
    let spawn (runtimeId : UInt64) : Packet := .startGame
      ⟨runtimeId.toInt64, runtimeId, 0, Vector.zero, Rotation.zero, 0, 0, "", 0, []⟩
    let moves : List Move :=
      [.event (.connected 0 (.ok (0, Sample.connection))),
        .event (.backend (some (Sample.frame [spawn 1]))),
        .event (.transfer Sample.survival),
        .event (.connected 1 (.ok (1, Sample.connection))),
        .event (.pending (some (Sample.frame [spawn 5, .removeEntity ⟨5⟩]))),
        .event (.client (some Sample.acknowledged)),
        .event (.client (some (Sample.frame [.entityEvent ⟨1, 0, 0⟩])))]
    let log := Sample.session.gathered log moves
    ((adoptions log).map fun adoption => adoption.backend.link) = [.backend 0, .backend 1] ∧
      ((carriages log).map fun carriage => (carriage.backend.link, carriage.passed.decoded)) =
        [(.backend 0, some (spawn 1)), (.backend 1, some (.removeEntity ⟨1⟩)),
          (.backend 1, some (.entityEvent ⟨5, 0, 0⟩))] ∧
      Sample.session.RendersOwn none moves := by
  intro spawn moves log
  exact ⟨by decide +kernel, by decide +kernel, play_rendersOwn _ _ _ _ moves⟩

end Session

end Ferry
