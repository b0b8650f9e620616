import Ferry.Proofs.Transfer.Progress
import Ferry.Proofs.Session.NumberOwnership

/-!
# The story of each transfer

What a session tells of its transfers is one story after the other. A transfer begins, the client is
sent away and sent on, each at most once and in this order, and when it has arrived, the new backend
and whoever listens are told so, if the link of that backend is still there. A story may break off
anywhere, and is not taken up again.
-/

namespace Ferry

/-- What a session tells of its transfers. -/
inductive Tale where
  /-- A new backend has spawned the player, who comes from another server, unless that was lost. -/
  | begun (source : Option Server) (target : Endpoint)
  | reached (milestone : Milestone)

/-- How far a transfer comes, and the packets that the client is sent on the way. -/
inductive Reach where
  /-- The client is sent nothing. -/
  | begun
  | sentAway (departure : List Packet)
  | sentOn (departure arrival : List Packet)
  /-- The client has arrived where the new backend is gone. -/
  | stranded (departure arrival : List Packet)
  /-- The client has arrived at the new backend, which knows it by an id. -/
  | completed (departure arrival : List Packet) (runtimeId : UInt64)

/-- The story of a transfer. -/
structure Story where
  /-- The server that is left, unless it was lost. -/
  source : Option Server
  target : Endpoint
  reach : Reach

namespace Story

/-- The milestones of a transfer. -/
def milestones (story : Story) : List Milestone :=
  match story.reach with
  | .begun => []
  | .sentAway departure => [.directed (.ahead departure)]
  | .sentOn departure arrival => [.directed (.ahead departure), .directed (.ahead arrival)]
  | .stranded departure arrival => [.directed (.ahead departure), .directed (.ahead arrival),
      .directed (.ahead Player.completionPackets)]
  | .completed departure arrival runtimeId =>
    [.directed (.ahead departure), .directed (.ahead arrival),
      .directed (.ahead Player.completionPackets), .initialized story.target.link runtimeId] ++
      story.source.toList.map fun source => .transferred source story.target.server

/-- All that is told of a transfer. -/
def tales (story : Story) : List Tale :=
  .begun story.source story.target :: story.milestones.map .reached

/-- Whether a story is that of a transfer. -/
def IsOf (story : Story) (transfer : Transfer) : Prop :=
  transfer.source = story.source ∧ transfer.target = story.target.server

/-- Packets that send a client away: they take all that the old backend has shown from it, and move
it into the temporary dimension of the transfer. -/
def Departs (story : Story) (packets : List Packet) : Prop :=
  ∃ (scene : Scene) (player : Player) (transfer : Transfer), story.IsOf transfer ∧
    packets = scene.teardown ++ player.departurePackets transfer

/-- Packets that send a client on to where the new backend has spawned it. -/
def Arrives (story : Story) (packets : List Packet) : Prop :=
  ∃ (player : Player) (transfer : Transfer), story.IsOf transfer ∧
    packets = player.arrivalPackets transfer

/-- A story in which the client is sent the packets that belong to the transfer. -/
def IsGenuine (story : Story) : Prop :=
  match story.reach with
  | .begun => True
  | .sentAway departure => story.Departs departure
  | .sentOn departure arrival | .stranded departure arrival | .completed departure arrival _ =>
    story.Departs departure ∧ story.Arrives arrival

/-- The story with the client sent on. -/
def sendOn (story : Story) (departure arrival : List Packet) : Story :=
  { story with reach := .sentOn departure arrival }

/-- The story with the client arrived, over a link to the new backend if that is still there. -/
def finish (story : Story) (departure arrival : List Packet) (link : Option LinkId)
    (runtimeId : UInt64) : Story :=
  { story with reach :=
      if link.isSome then .completed departure arrival runtimeId
      else .stranded departure arrival }

variable {story : Story} {departure arrival : List Packet} {transfer : Transfer} {player : Player}

/-- To send the client on is told behind all else. -/
theorem tales_sendOn (away : story.reach = .sentAway departure) :
    (story.sendOn departure arrival).tales =
      story.tales ++ [.reached (.directed (.ahead arrival))] := by
  simp [tales, milestones, sendOn, away]

/-- A story in which the client arrives is genuine if what it was sent is. -/
theorem genuine_finish {link : Option LinkId} {runtimeId : UInt64}
    (departs : story.Departs departure) (arrives : story.Arrives arrival) :
    (story.finish departure arrival link runtimeId).IsGenuine := by
  cases link <;> exact ⟨departs, arrives⟩

/-- All that is told of an arrival is told behind all else. -/
theorem tales_finish {link : Option LinkId} (on : story.reach = .sentOn departure arrival)
    (isOf : story.IsOf transfer) (there : ∀ here, link = some here → here = story.target.link) :
    (story.finish departure arrival link player.mapping.backend.runtimeId).tales =
      story.tales ++ (arrivalMilestones link player transfer).map .reached := by
  cases link with
  | none => simp [tales, milestones, finish, on, arrivalMilestones]
  | some here =>
    cases there here rfl
    simp [tales, milestones, finish, on, arrivalMilestones, isOf.1, isOf.2]

end Story

/-- How far the story of a transfer in progress has come. -/
inductive Reach.At : Reach → TransferPhase → Prop
  | departing (departure : List Packet) : At (.sentAway departure) .departing
  | arriving (departure arrival : List Packet) : At (.sentOn departure arrival) .arriving

namespace Session

/-- Whether a move begins a transfer, and between which servers. -/
def begun (session : Session) : Move → List Tale
  | .event (.pending (some frame)) => (session.spawning? frame).toList.map fun spawn =>
      .begun spawn.1.arrival.source spawn.1.endpoint
  | _ => []

/-- What a move tells of the session's transfers. -/
def chronicle (session : Session) (move : Move) : List Tale :=
  session.begun move ++ (milestones (session.move move).2).map .reached

/-- The story of the transfer in progress. -/
structure IsIn (session : Session) (story : Story) (transfer : Transfer) : Prop where
  isOf : story.IsOf transfer
  authority : session.authority = some story.target
  reach : story.reach.At transfer.phase

/-- Stories of a session, the last of which is that of the transfer in progress, if there is one. -/
structure Tells (session : Session) (tales : List Tale) (stories : List Story) : Prop where
  told : tales = stories.flatMap Story.tales
  genuine : ∀ story ∈ stories, story.IsGenuine
  current : ∀ transfer, session.player.transfer = some transfer →
    ∃ earlier story, stories = earlier ++ [story] ∧ session.IsIn story transfer

variable {session : Session} {tales : List Tale} {stories : List Story} {frame : Bytes}
  {pending : PendingBackend} {batch : Batch} {transfer : Transfer}

/-! ## One move -/

/-- A frame that spawns the player begins a story. -/
theorem chronicle_of_spawns (spawns : session.Spawns frame pending batch) (sound : session.Sound)
    (moving : (session.keptFromPending pending batch).1.transfer = some transfer) :
    let goes := session.client.isOpen && !pending.refusesFirst batch
    let story : Story := ⟨pending.arrival.source, pending.endpoint, if goes then
      .sentAway (session.player.scene.teardown ++
        (session.keptFromPending pending batch).1.departurePackets transfer)
      else .begun⟩
    session.chronicle (.event (.pending (some frame))) = story.tales ∧ story.IsGenuine := by
  intro goes story
  obtain ⟨source, target⟩ := spawns.aim sound moving
  have told : session.chronicle (.event (.pending (some frame))) =
      .begun pending.arrival.source pending.endpoint :: (if goes then
        [.directed (session.departureBatch pending batch transfer)] else []).map .reached := by
    simp only [chronicle, begun, spawning?_eq_some.mpr spawns, move_reaches _ sound,
      due_of_spawns spawns moving]
    rfl
  rw [told]
  cases sent : goes with
  | false =>
    simp only [story, sent, Bool.false_eq_true, if_false]
    exact ⟨rfl, trivial⟩
  | true =>
    simp only [story, sent, if_true]
    exact ⟨rfl, _, _, _, ⟨source, target⟩, rfl⟩

/-- While no transfer is in progress, only one that begins is told of. -/
theorem chronicle_of_settled (move : Move) (sound : session.Sound)
    (still : session.player.transfer = none)
    (settled : ∀ frame pending batch, move = .event (.pending (some frame)) →
      ¬session.Spawns frame pending batch) : session.chronicle move = [] := by
  rw [chronicle, move_reaches move sound]
  unfold begun due
  split
  next frame =>
    have unspawned : session.spawning? frame = none := by
      cases spawned : session.spawning? frame with
      | none => rfl
      | some spawn => exact absurd (spawning?_eq_some.mp spawned) (settled _ _ _ rfl)
    simp [unspawned]
  next other =>
    split
    · simp [still]
    next frame => exact absurd rfl (other frame)
    · rfl

/-- While a transfer is in progress, no other one begins. -/
theorem unspawned_of_moving (sound : session.Sound)
    (moving : session.player.transfer = some transfer) : session.spawning? frame = none := by
  cases spawned : session.spawning? frame with
  | none => rfl
  | some spawn =>
    have spawns : session.Spawns frame spawn.1 spawn.2 := spawning?_eq_some.mp spawned
    cases moving.symm.trans (spawns.unmoved sound)

/-- While a transfer is in progress, all that is told is what is due. -/
theorem chronicle_of_moving (move : Move) (sound : session.Sound)
    (moving : session.player.transfer = some transfer) :
    session.chronicle move = (session.due move).map .reached := by
  have nothing : session.begun move = [] := by
    unfold begun
    split
    · rw [unspawned_of_moving sound moving]
      rfl
    · rfl
  rw [chronicle, nothing, move_reaches move sound, List.nil_append]

/-- Something is due while a transfer is in progress only with a frame in which the client, still
there, acknowledges. -/
theorem client_of_due {move : Move} (sound : session.Sound)
    (moving : session.player.transfer = some transfer) (spoken : session.due move ≠ []) :
    ∃ frame answer more, move = .event (.client (.some frame)) ∧ session.client.isOpen = true ∧
      session.answersIn frame = answer :: more := by
  unfold due at spoken
  split at spoken
  next frame =>
    split at spoken
    next opened =>
      cases answered : session.answersIn frame with
      | nil =>
        rw [moving] at spoken
        simp [dueOfAnswers, answered] at spoken
      | cons answer more => exact ⟨frame, answer, more, rfl, opened, answered⟩
    next => exact absurd rfl spoken
  next frame =>
    rw [unspawned_of_moving sound moving] at spoken
    exact absurd rfl spoken
  next => exact absurd rfl spoken

/-- The link of a peer that is there is the peer's own. -/
theorem link_of_openLink {peer : Peer} {link : LinkId} (there : peer.openLink = some link) :
    link = peer.link := by
  unfold Peer.openLink at there
  split at there
  · cases there
  · exact (Option.some.inj there).symm

/-- The new backend is on the link of the one whose numbers hold. -/
theorem pendingLink_of_authority {backend : Endpoint} {link : LinkId}
    (locked : session.player.isLocked = true) (here : session.authority = some backend)
    (there : session.pendingLink = some link) : link = backend.link := by
  obtain ⟨pending, met, onLink⟩ := Option.bind_eq_some_iff.mp there
  rw [authority_of_locked locked, met] at here
  rw [← Option.some.inj here]
  exact link_of_openLink onLink

/-- The link of the backend is that of the endpoint in force. -/
theorem backendLink_of_authority {backend : Endpoint} {link : LinkId}
    (free : session.player.isLocked = false) (here : session.authority = some backend)
    (there : session.backendLink = some link) : link = backend.link := by
  obtain ⟨place, on, onLink⟩ := Option.bind_eq_some_iff.mp there
  rw [authority_of_free free, on] at here
  rw [← Option.some.inj here]
  exact link_of_openLink onLink

/-- The story of a transfer goes on when more is told of it, as far as the transfer has come. -/
theorem Tells.extend {after : Session} {earlier : List Story} {story next : Story}
    {more : List Tale} (tells : session.Tells tales (earlier ++ [story]))
    (further : next.tales = story.tales ++ more) (genuine : next.IsGenuine)
    (current : ∀ transfer, after.player.transfer = some transfer → after.IsIn next transfer) :
    after.Tells (tales ++ more) (earlier ++ [next]) := by
  refine ⟨?_, ?_, fun transfer moving => ⟨earlier, next, rfl, current transfer moving⟩⟩
  · rw [tells.told, List.flatMap_append, List.flatMap_append, List.flatMap_singleton,
      List.flatMap_singleton, further, List.append_assoc]
  · refine List.forall_mem_append.mpr ⟨fun other mem => ?_, List.forall_mem_singleton.mpr genuine⟩
    exact tells.genuine other (List.mem_append_left _ mem)

/-- The packets with which a client was sent away whose transfer is in progress. -/
theorem Tells.departs {earlier : List Story} {story : Story} {departure : List Packet}
    (tells : session.Tells tales (earlier ++ [story])) (away : story.reach = .sentAway departure) :
    story.Departs departure := by
  have genuine := tells.genuine story (List.mem_append_right _ List.mem_cons_self)
  simpa [Story.IsGenuine, away] using genuine

/-- With the first acknowledgment of a client that is on its way out the story goes on. -/
theorem Tells.leave {earlier : List Story} {story : Story} {answer : BatchPacket}
    (sound : session.Sound) (tells : session.Tells tales (earlier ++ [story]))
    (isIn : session.IsIn story transfer) (moving : session.player.transfer = some transfer)
    (away : transfer.phase = .departing) (opened : session.client.isOpen = true)
    (answered : session.answersIn frame = [answer]) :
    ∃ stories, (session.move (.event (.client (some frame)))).1.Tells
      (tales ++ (session.due (.event (.client (some frame)))).map .reached) stories := by
  let player := session.playerAfterClient frame
  let arrival := player.arrivalPackets transfer
  have due : session.due (.event (.client (some frame))) = [.directed (.ahead arrival)] := by
    rw [due_of_client moving, if_pos opened]
    simp only [dueOfAnswers, away, answered]
    rfl
  have reach := isIn.reach
  rw [away] at reach
  generalize come : story.reach = come at reach
  cases reach with
  | departing departure =>
    have further : (story.sendOn departure arrival).tales = story.tales ++
        (session.due (.event (.client (some frame)))).map .reached := by
      rw [Story.tales_sendOn come, due]
      rfl
    refine ⟨_, tells.extend further
      ⟨tells.departs come, player, transfer, isIn.isOf, rfl⟩ fun next onward => ?_⟩
    have same := authority_of_onward sound moving onward
    cases move_onward (.event (.client (some frame))) sound with
    | ended ended => cases ended.symm.trans onward
    | stays _ _ _ _ _ unanswered =>
      rw [answers_of_moving sound.coherent moving, answered] at unanswered
      cases unanswered
    | leaves there _ _ goes arriving source target =>
      cases moving.symm.trans there
      cases onward.symm.trans goes
      exact ⟨⟨source.trans isIn.isOf.1, target.trans isIn.isOf.2⟩, same.trans isIn.authority,
        by rw [arriving]; exact .arriving departure arrival⟩

/-- With two acknowledgments in one frame a client that is on its way out is sent on and arrives. -/
theorem Tells.leaveAndArrive {earlier : List Story} {story : Story} {answer second : BatchPacket}
    {more : List BatchPacket} (sound : session.Sound)
    (tells : session.Tells tales (earlier ++ [story])) (isIn : session.IsIn story transfer)
    (moving : session.player.transfer = some transfer) (away : transfer.phase = .departing)
    (opened : session.client.isOpen = true)
    (answered : session.answersIn frame = answer :: second :: more) :
    ∃ stories, (session.move (.event (.client (some frame)))).1.Tells
      (tales ++ (session.due (.event (.client (some frame)))).map .reached) stories := by
  let player := session.playerAfterClient frame
  let arrival := player.arrivalPackets transfer
  have due : session.due (.event (.client (some frame))) =
      .directed (.ahead arrival) :: arrivalMilestones session.pendingLink player transfer := by
    rw [due_of_client moving, if_pos opened]
    simp only [dueOfAnswers, away, answered]
    rfl
  have ended := move_ends sound.coherent moving (.inr ⟨away, by rw [answered]; simp⟩)
  have there : ∀ link, session.pendingLink = some link → link = story.target.link :=
    fun link => pendingLink_of_authority (Player.locked_of_departing moving away) isIn.authority
  have reach := isIn.reach
  rw [away] at reach
  generalize come : story.reach = come at reach
  cases reach with
  | departing departure =>
    let next := story.finish departure arrival session.pendingLink
      player.mapping.backend.runtimeId
    have further : next.tales = story.tales ++
        (session.due (.event (.client (some frame)))).map .reached := by
      have finished := @Story.tales_finish (story.sendOn departure arrival) departure arrival
        transfer player session.pendingLink rfl isIn.isOf there
      rw [Story.tales_sendOn come, List.append_assoc] at finished
      rw [due]
      exact finished
    refine ⟨_, tells.extend further
      (Story.genuine_finish (tells.departs come) ⟨player, transfer, isIn.isOf, rfl⟩) ?_⟩
    intro transfer onward
    cases ended.symm.trans onward

/-- With an acknowledgment of a client that is on its way in the story comes to its end. -/
theorem Tells.arrive {earlier : List Story} {story : Story} {answer : BatchPacket}
    {more : List BatchPacket} (sound : session.Sound)
    (tells : session.Tells tales (earlier ++ [story])) (isIn : session.IsIn story transfer)
    (moving : session.player.transfer = some transfer) (arriving : transfer.phase = .arriving)
    (opened : session.client.isOpen = true)
    (answered : session.answersIn frame = answer :: more) :
    ∃ stories, (session.move (.event (.client (some frame)))).1.Tells
      (tales ++ (session.due (.event (.client (some frame)))).map .reached) stories := by
  let player := session.playerAfterClient frame
  have due : session.due (.event (.client (some frame))) =
      arrivalMilestones session.backendLink player transfer := by
    rw [due_of_client moving, if_pos opened]
    simp only [dueOfAnswers, arriving, answered]
    rfl
  have ended := move_ends sound.coherent moving (.inl ⟨arriving, by rw [answered]; simp⟩)
  have free : session.player.isLocked = false := by
    simp [Player.isLocked, moving, Transfer.isLocked, arriving]
  have reach := isIn.reach
  rw [arriving] at reach
  generalize come : story.reach = come at reach
  cases reach with
  | arriving departure arrival =>
    have genuine : story.Departs departure ∧ story.Arrives arrival := by
      have genuine := tells.genuine story (List.mem_append_right _ List.mem_cons_self)
      simpa [Story.IsGenuine, come] using genuine
    have further := @Story.tales_finish story departure arrival transfer player session.backendLink
      come isIn.isOf fun link => backendLink_of_authority free isIn.authority
    rw [← due] at further
    refine ⟨_, tells.extend further (Story.genuine_finish genuine.1 genuine.2) ?_⟩
    intro transfer onward
    cases ended.symm.trans onward

/-- Whatever happens while a transfer is in progress, its story goes on. -/
theorem Tells.move_of_moving (move : Move) (sound : session.Sound)
    (tells : session.Tells tales stories) (moving : session.player.transfer = some transfer) :
    ∃ further, (session.move move).1.Tells (tales ++ session.chronicle move) further := by
  obtain ⟨earlier, story, rfl, isIn⟩ := tells.current transfer moving
  rw [chronicle_of_moving move sound moving]
  by_cases nothing : session.due move = []
  · refine ⟨earlier ++ [story], ?_⟩
    rw [nothing, List.map_nil, List.append_nil]
    refine ⟨tells.told, tells.genuine, fun next onward => ⟨earlier, story, rfl, ?_⟩⟩
    have same := authority_of_onward sound moving onward
    cases move_onward move sound with
    | ended ended => cases ended.symm.trans onward
    | stays there goes phase source target =>
      cases moving.symm.trans there
      cases onward.symm.trans goes
      exact ⟨⟨source.trans isIn.isOf.1, target.trans isIn.isOf.2⟩, same.trans isIn.authority,
        phase ▸ isIn.reach⟩
    | begins spawns => cases moving.symm.trans (spawns.unmoved sound)
    | leaves there away opened _ _ _ _ answered =>
      cases moving.symm.trans there
      rw [due_of_client moving, if_pos opened] at nothing
      simp [dueOfAnswers, away, answered] at nothing
  · obtain ⟨frame, answer, more, rfl, opened, answered⟩ := client_of_due sound moving nothing
    rcases sound.coherent.unfinished moving with away | arriving
    · cases more with
      | nil => exact tells.leave sound isIn moving away opened answered
      | cons second rest => exact tells.leaveAndArrive sound isIn moving away opened answered
    · exact tells.arrive sound isIn moving arriving opened answered

/-- Whatever happens while no transfer is in progress, at most one begins. -/
theorem Tells.move_of_settled (move : Move) (sound : session.Sound)
    (tells : session.Tells tales stories) (still : session.player.transfer = none) :
    ∃ further, (session.move move).1.Tells (tales ++ session.chronicle move) further := by
  by_cases begins : ∃ frame pending batch, move = .event (.pending (some frame)) ∧
      session.Spawns frame pending batch
  · obtain ⟨frame, pending, batch, rfl, spawns⟩ := begins
    obtain ⟨-, -, course⟩ := sound.coherent.of_pending spawns.met
    obtain ⟨transfer, moving, away⟩ := spawns.departing course
    obtain ⟨told, genuine⟩ := chronicle_of_spawns spawns sound moving
    refine ⟨stories ++ [_], ?_, List.forall_mem_append.mpr
      ⟨tells.genuine, List.forall_mem_singleton.mpr genuine⟩, ?_⟩
    · rw [told, tells.told, List.flatMap_append, List.flatMap_singleton]
    · refine fun next onward => ⟨stories, _, rfl, ?_⟩
      have authority := spawns.authority sound onward
      generalize become : (session.move (.event (.pending (some frame)))).1 = after at *
      have onwards := move_onward (.event (.pending (some frame))) sound
      rw [become] at onwards
      cases onwards with
      | ended ended => cases ended.symm.trans onward
      | stays there => cases still.symm.trans there
      | begins again accepts opened goes departing source target =>
        cases (spawning?_eq_some.mpr spawns).symm.trans (spawning?_eq_some.mpr again)
        cases onward.symm.trans goes
        refine ⟨⟨source, target⟩, authority, ?_⟩
        rw [departing]
        simp only [opened, accepts, Bool.not_false, Bool.and_self, if_true]
        exact .departing _
  · have nothing : session.chronicle move = [] := chronicle_of_settled move sound still
      fun frame pending batch same spawns => begins ⟨frame, pending, batch, same, spawns⟩
    refine ⟨stories, ?_⟩
    rw [nothing, List.append_nil]
    refine ⟨tells.told, tells.genuine, fun next onward => ?_⟩
    cases move_onward move sound with
    | ended ended => cases ended.symm.trans onward
    | stays there => cases still.symm.trans there
    | begins spawns => exact absurd ⟨_, _, _, rfl, spawns⟩ begins
    | leaves there => cases still.symm.trans there

/-! ## Runs -/

/-- A move goes on with the last story, or begins one. -/
theorem move_tells (move : Move) (sound : session.Sound) (tells : session.Tells tales stories) :
    ∃ further, (session.move move).1.Tells (tales ++ session.chronicle move) further := by
  cases moving : session.player.transfer with
  | none => exact tells.move_of_settled move sound moving
  | some transfer => exact tells.move_of_moving move sound moving

/-- Along a run, what is told of transfers is one story after the other. -/
theorem play_tells (moves : List Move) (sound : session.Sound)
    (tells : session.Tells tales stories) :
    ∃ further,
      (session.play moves).1.Tells (tales ++ session.gathered chronicle moves) further := by
  induction moves generalizing session tales stories with
  | nil => exact ⟨stories, by simpa [gathered, play] using tells⟩
  | cons move moves ih =>
    obtain ⟨next, told⟩ := move_tells move sound tells
    rw [gathered, ← List.append_assoc]
    exact ih (move_sound session move sound) told

/-! ## By which id the player is named -/

/-- The player whom a client's frame was looked at is known to the backend by the same id. -/
theorem playerAfterClient_mapping :
    (session.playerAfterClient frame).mapping = session.player.mapping := by
  unfold playerAfterClient
  split
  · exact Work.fromClient_mapping
  · rfl

/-- Word of an arrival goes over the new backend's link, by the id that this backend gave. -/
theorem initialized_mem_arrivalMilestones {link : LinkId} {runtimeId : UInt64}
    {there : Option LinkId} {player : Player}
    (mem : .initialized link runtimeId ∈ arrivalMilestones there player transfer) :
    there = some link ∧ player.mapping.backend.runtimeId = runtimeId := by
  cases there with
  | none => simp [arrivalMilestones] at mem
  | some other =>
    simp only [arrivalMilestones, List.mem_cons, reduceCtorEq, false_or,
      Milestone.initialized.injEq, List.mem_map, and_false, exists_false, or_false] at mem
    exact ⟨by rw [mem.1], mem.2.symm⟩

/-- A backend is told that a player has arrived only at the end of a transfer to it, and by the id
that it is known to have given the player. -/
theorem moving_of_initialized {link : LinkId} {runtimeId : UInt64} (move : Move)
    (sound : session.Sound) (mem : .initialized link runtimeId ∈ session.due move) :
    ∃ transfer, session.player.transfer = some transfer ∧
      session.authority = some ⟨link, transfer.target⟩ ∧
      session.player.mapping.backend.runtimeId = runtimeId := by
  cases moving : session.player.transfer with
  | none =>
    unfold due at mem
    split at mem
    · simp [moving] at mem
    · split at mem
      · split at mem
        · simp at mem
        · cases mem
      · cases mem
    · cases mem
  | some transfer =>
    obtain ⟨backend, here, aimed⟩ := sound.coherent.authority moving
    obtain ⟨frame, answer, more, rfl, opened, answered⟩ :=
      client_of_due sound moving (List.ne_nil_of_mem mem)
    rw [due_of_client moving, if_pos opened] at mem
    have known : (session.playerAfterClient frame).mapping.backend.runtimeId = runtimeId →
        session.player.mapping.backend.runtimeId = runtimeId := by
      rw [playerAfterClient_mapping]
      exact id
    refine ⟨transfer, rfl, ?_⟩
    rcases sound.coherent.unfinished moving with away | arriving
    · simp only [dueOfAnswers, away, answered, List.mem_cons, reduceCtorEq, false_or] at mem
      split at mem
      · cases mem
      · obtain ⟨there, named⟩ := initialized_mem_arrivalMilestones mem
        have same := pendingLink_of_authority (Player.locked_of_departing moving away) here there
        exact ⟨by rw [here, same, ← aimed], known named⟩
    · have free : session.player.isLocked = false := by
        simp [Player.isLocked, moving, Transfer.isLocked, arriving]
      simp only [dueOfAnswers, arriving, answered] at mem
      obtain ⟨there, named⟩ := initialized_mem_arrivalMilestones mem
      have same := backendLink_of_authority free here there
      exact ⟨by rw [here, same, ← aimed], known named⟩

/-- Whoever is being transferred was spawned by a backend that was adopted. -/
theorem move_adopted {log : List Entry} (move : Move) (sound : session.Sound)
    (adopted : session.player.transfer.isSome = true → adoptions log ≠ [])
    (moving : (session.move move).1.player.transfer.isSome = true) :
    adoptions (log ++ session.log move) ≠ [] := by
  rw [adoptions_append]
  have before (moved : session.player.transfer.isSome = true) :
      adoptions log ++ adoptions (session.log move) ≠ [] := by simp [adopted moved]
  cases move_onward move sound with
  | ended ended => simp [ended] at moving
  | stays there => exact before (by rw [there]; rfl)
  | begins spawns => simp [spawns.adopts.1]
  | leaves there => exact before (by rw [there]; rfl)

/-- Whenever a transfer is in progress, somebody has been adopted. -/
theorem play_adopted {log : List Entry} (moves : List Move) (sound : session.Sound)
    (adopted : session.player.transfer.isSome = true → adoptions log ≠ []) :
    (session.play moves).1.player.transfer.isSome = true →
      adoptions (log ++ session.gathered Session.log moves) ≠ [] := by
  induction moves generalizing session log with
  | nil => simpa [gathered, play] using adopted
  | cons move moves ih =>
    rw [gathered, ← List.append_assoc]
    exact ih (move_sound session move sound) (move_adopted move sound adopted)

/-- What a run tells of the transfers in it. -/
structure TellsStories (opening : Session) (moves : List Move) : Prop where
  /-- Each move reaches the milestones that are due with it, and no other ones. -/
  due : ∀ earlier move later, moves = earlier ++ move :: later →
    milestones ((opening.play earlier).1.move move).2 = (opening.play earlier).1.due move
  /-- From any moment on at which no transfer is in progress, what is told is one whole story after
  the other, the last of which is that of the transfer in progress in the end. -/
  stories : ∀ earlier later, moves = earlier ++ later →
    (opening.play earlier).1.player.transfer = none → ∃ stories,
      (opening.play moves).1.Tells ((opening.play earlier).1.gathered chronicle later) stories
  /-- Whenever a backend is told that the player has arrived, it is the target of the transfer, it
  was adopted last, and it knows the player by the id that it is told. -/
  named : ∀ earlier move later link runtimeId, moves = earlier ++ move :: later →
    .initialized link runtimeId ∈ milestones ((opening.play earlier).1.move move).2 →
      ∃ transfer adoption, (opening.play earlier).1.player.transfer = some transfer ∧
        (adoptions (opening.gathered log earlier)).getLast? = some adoption ∧
        adoption.backend = ⟨link, transfer.target⟩ ∧ adoption.start.runtimeId = runtimeId

/-- Every transfer is told of as one story, from its begin to wherever it ends. -/
theorem play_tellsStories (login : LoginData) (services : SessionServices) (client : Connection)
    (initial : Server) (moves : List Move) :
    (start login services client initial).1.TellsStories moves := by
  let opening := (start login services client initial).1
  have sound (moves : List Move) : (opening.play moves).1.Sound :=
    play_sound login services client initial moves
  refine ⟨fun earlier move later _ => move_reaches move (sound earlier), ?_, ?_⟩
  · rintro earlier later rfl still
    obtain ⟨stories, tells⟩ := @play_tells (opening.play earlier).1 [] [] later (sound earlier)
      ⟨rfl, by simp, fun transfer moving => by cases still.symm.trans moving⟩
    refine ⟨stories, ?_⟩
    rw [play_append]
    exact tells
  · intro earlier move later link runtimeId _ mem
    rw [move_reaches move (sound earlier)] at mem
    obtain ⟨transfer, moving, here, named⟩ := moving_of_initialized move (sound earlier) mem
    obtain ⟨follows, -⟩ := @play_follows opening login.clientIds [] earlier (sound []).coherent
      ⟨rfl, by rintro _ ⟨⟩, .inl rfl⟩ trivial
    have adopted := @play_adopted opening [] earlier (sound [])
      (by simp [opening, start, Player.start]) (by rw [moving]; rfl)
    rw [List.nil_append] at follows adopted
    cases last : (adoptions (opening.gathered log earlier)).getLast? with
    | none => exact absurd (List.getLast?_eq_none_iff.mp last) adopted
    | some adoption =>
      refine ⟨transfer, adoption, moving, rfl, follows.obeys.endpoint here adoption last, ?_⟩
      rw [← named, follows.mapping, Mapping.backend_of_adoptions last]

/-- The lobby's player is moved to the survival server, and acknowledges both changes. -/
example : (Sample.session.gathered chronicle (Sample.moving ++ [Sample.spawning,
        .event (.client (some Sample.acknowledged)),
        .event (.client (some Sample.acknowledged))])).map
    (fun
      | .begun .. => "begun"
      | .reached (.directed _) => "directed"
      | .reached (.initialized ..) => "initialized"
      | .reached (.transferred ..) => "transferred") =
    ["begun", "directed", "directed", "directed", "initialized", "transferred"] := by
  decide +kernel

end Session

end Ferry
