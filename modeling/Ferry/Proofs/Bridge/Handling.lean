import Ferry.Bridge
import Ferry.Handler.Arrival
import Ferry.Handler.Backend
import Ferry.Handler.Client

/-!
# What bridging a batch leads to

What every packet keeps, a batch keeps. From this follows what each of the three handlers
can ask for, and what it does to the transfer in progress.
-/

namespace Ferry

namespace Bridge

variable {σ : Type} {handler : Handler σ} {direction : Direction} {version : Version}
  {state : σ} {player : Player} {batch : Batch}

/-- A property of the state, the player and the actions that a handler keeps, and that does not
depend on the scene, is kept by one packet. -/
theorem cross_keeps (inv : σ → Player → List Action → Prop)
    (handled : ∀ state player actions packet, inv state player actions →
      inv (handler.handle state player packet).state (handler.handle state player packet).player
        (actions ++ (handler.handle state player packet).actions))
    (observed : ∀ state player actions scene, inv state player actions →
      inv state { player with scene := scene } actions)
    {crossing : Crossing σ} {packet : BatchPacket}
    (holds : inv crossing.state crossing.player crossing.actions) :
    inv (cross handler direction version crossing packet).state
      (cross handler direction version crossing packet).player
      (cross handler direction version crossing packet).actions := by
  have looked : ∀ value, inv
      (handle handler crossing.state crossing.player packet.header.id value).state
      (handle handler crossing.state crossing.player packet.header.id value).player
      (crossing.actions ++
        (handle handler crossing.state crossing.player packet.header.id value).actions) := by
    intro value
    unfold handle
    split
    · exact handled _ _ _ value holds
    · simpa [Handled.untouched] using holds
  unfold cross
  dsimp only
  split
  · split
    · exact holds
    next value decoded =>
      split
      · exact looked value
      · exact looked value
      · unfold passOn
        dsimp only
        split
        · exact observed _ _ _ _ (looked value)
        · exact looked value
  · exact holds

/-- What one packet keeps, a batch keeps. -/
theorem process_keeps (inv : σ → Player → List Action → Prop)
    (handled : ∀ state player actions packet, inv state player actions →
      inv (handler.handle state player packet).state (handler.handle state player packet).player
        (actions ++ (handler.handle state player packet).actions))
    (observed : ∀ state player actions scene, inv state player actions →
      inv state { player with scene := scene } actions)
    (holds : inv state player []) :
    inv (process handler direction version state player batch).state
      (process handler direction version state player batch).player
      (process handler direction version state player batch).actions := by
  have kept : ∀ (packets : List BatchPacket) (crossing : Crossing σ),
      inv crossing.state crossing.player crossing.actions →
      inv (packets.foldl (cross handler direction version) crossing).state
        (packets.foldl (cross handler direction version) crossing).player
        (packets.foldl (cross handler direction version) crossing).actions := by
    intro packets
    induction packets with
    | nil => exact fun _ here => here
    | cons packet packets ih =>
      intro crossing here
      exact ih _ (cross_keeps inv handled observed here)
  exact kept batch.packets ⟨state, player, [], BridgeReport.zero, []⟩ holds

/-- A batch that crosses overtakes the queue just if it did before. -/
@[simp] theorem process_skipQueue :
    (process handler direction version state player batch).batch.skipQueue = batch.skipQueue := by
  unfold process
  dsimp only
  split <;> rfl

end Bridge

section Handlers

variable {direction : Direction} {version : Version} {player : Player} {batch : Batch}

/-- No packet from the client changes the transfer, and all that it can cause is that a change
of dimension is acknowledged. -/
theorem Handler.client_handle (player : Player) (packet : Packet) :
    (Handler.client.handle () player packet).player.transfer = player.transfer ∧
      ∀ action ∈ (Handler.client.handle () player packet).actions, action = .dimensionChanged := by
  unfold Handler.client
  dsimp only
  split
  · split
    · exact ⟨rfl, by simp⟩
    · exact ⟨rfl, by simp [Handled.untouched]⟩
  · exact ⟨rfl, by simp [Handled.untouched]⟩
  · exact ⟨rfl, by simp [Handled.untouched]⟩

/-- No packet from the backend changes the transfer, and all that it can cause is that the
player is sent away. -/
theorem Handler.backend_handle (server : Server) (player : Player) (packet : Packet) :
    ((Handler.backend server).handle () player packet).player.transfer = player.transfer ∧
      ∀ action ∈ ((Handler.backend server).handle () player packet).actions,
        ∃ message, action = .kicked message := by
  unfold Handler.backend
  dsimp only
  split
  next start => exact ⟨rfl, by simp [Handled.untouched]⟩
  next change => exact ⟨rfl, by simp [Handled.untouched]⟩
  next update => exact ⟨rfl, by simp [Handled.untouched]⟩
  next disconnect => exact ⟨rfl, by simp⟩
  next => exact ⟨rfl, by simp [Handled.untouched]⟩

/-- What the client sends leaves the transfer, and can only acknowledge a change of dimension. -/
theorem process_client :
    (Bridge.process Handler.client direction version () player batch).player.transfer =
        player.transfer ∧
      ∀ action ∈ (Bridge.process Handler.client direction version () player batch).actions,
        action = .dimensionChanged := by
  apply Bridge.process_keeps fun _ last actions => last.transfer = player.transfer ∧
    ∀ action ∈ actions, action = Action.dimensionChanged
  · rintro _ last actions packet ⟨same, all⟩
    obtain ⟨stays, more⟩ := Handler.client_handle last packet
    exact ⟨stays.trans same, List.forall_mem_append.mpr ⟨all, more⟩⟩
  · intro _ _ _ _ here
    exact here
  · simp

/-- What a backend sends leaves the transfer, and can only be that it has sent the player away. -/
theorem process_backend {server : Server} :
    (Bridge.process (Handler.backend server) direction version () player batch).player.transfer =
        player.transfer ∧
      ∀ action ∈ (Bridge.process (Handler.backend server) direction version () player
        batch).actions, ∃ message, action = .kicked message := by
  apply Bridge.process_keeps fun _ last actions => last.transfer = player.transfer ∧
    ∀ action ∈ actions, ∃ message, action = Action.kicked message
  · rintro _ last actions packet ⟨same, all⟩
    obtain ⟨stays, more⟩ := Handler.backend_handle server last packet
    exact ⟨stays.trans same, List.forall_mem_append.mpr ⟨all, more⟩⟩
  · intro _ _ _ _ here
    exact here
  · simp

end Handlers

/-! ## A new backend -/

/-- Whether an action is one that a new backend can cause. -/
def Action.isOfArrival : Action → Bool
  | .reply _ | .transferStarted _ | .transferFailed _ => true
  | _ => false

/-- Whether an action starts a transfer. -/
def Action.isStart : Action → Bool
  | .transferStarted _ => true
  | _ => false

/-- Whether a transfer is as a new backend has started it. -/
structure Transfer.IsFresh (transfer : Transfer) (arrival : Arrival) : Prop where
  departing : transfer.phase = .departing
  source : transfer.source = arrival.source
  target : transfer.target = arrival.target
  waiting : transfer.waiting = Waiting.empty arrival.limits

/-- The transfer with another dimension to arrive in. -/
def Transfer.toDimension (transfer : Transfer) (dimension : Int32) : Transfer :=
  { transfer with targetDimension := dimension }

/-- How far what a new backend has sent takes it and the transfer, and what it can cause. -/
inductive Arrival.Progress (arrival : Arrival) (transfer : Option Transfer) :
    Arrival → Option Transfer → List Action → Prop
  /-- The backend is still logging the player in. -/
  | loggingIn {actions : List Action} (login : arrival.started = false)
      (quiet : ∀ action ∈ actions, action.isOfArrival = true ∧ action.isStart = false) :
      Progress arrival transfer arrival transfer actions
  /-- The backend has spawned the player. -/
  | spawned {fresh : Transfer} {scene : Scene} {actions : List Action}
      (login : arrival.started = false) (isFresh : fresh.IsFresh arrival)
      (own : ∀ action ∈ actions, action.isOfArrival = true)
      (once : actions.filter Action.isStart = [.transferStarted scene.teardown]) :
      Progress arrival transfer { arrival with started := true } (some fresh) actions
  /-- The backend had spawned the player before. -/
  | goesOn {kept : Option Transfer} {actions : List Action} (game : arrival.started = true)
      (aim : kept = transfer ∨ ∃ dimension, kept = transfer.map (·.toDimension dimension))
      (quiet : ∀ action ∈ actions, action.isOfArrival = true ∧ action.isStart = false) :
      Progress arrival transfer arrival kept actions

/-- A backend that has spawned the player has done so for good. -/
theorem Arrival.Progress.started {arrival last : Arrival} {transfer kept : Option Transfer}
    {actions : List Action} (progress : arrival.Progress transfer last kept actions)
    (game : arrival.started = true) : last.started = true := by
  cases progress with
  | loggingIn => exact game
  | spawned => rfl
  | goesOn => exact game

/-- A new backend stays the one that it is. -/
theorem Arrival.Progress.target {arrival last : Arrival} {transfer kept : Option Transfer}
    {actions : List Action} (progress : arrival.Progress transfer last kept actions) :
    last.target = arrival.target := by
  cases progress <;> rfl

/-- A transfer is only started where one is in progress from then on. -/
theorem Arrival.Progress.isStart {arrival last : Arrival} {transfer kept : Option Transfer}
    {actions : List Action} (progress : arrival.Progress transfer last kept actions)
    {action : Action} (mem : action ∈ actions) (starts : action.isStart = true) :
    kept.isSome = true := by
  cases progress with
  | loggingIn _ quiet => simp [(quiet action mem).2] at starts
  | spawned => rfl
  | goesOn _ _ quiet => simp [(quiet action mem).2] at starts

/-- A new backend causes nothing but what a new backend can cause. -/
theorem Arrival.Progress.own {arrival last : Arrival} {transfer kept : Option Transfer}
    {actions : List Action} (progress : arrival.Progress transfer last kept actions) :
    ∀ action ∈ actions, action.isOfArrival = true := by
  cases progress with
  | loggingIn _ quiet => exact fun action mem => (quiet action mem).1
  | spawned _ _ own _ => exact own
  | goesOn _ _ quiet => exact fun action mem => (quiet action mem).1

/-- A backend that has spawned the player starts no transfer again. -/
theorem Arrival.Progress.quiet {arrival last : Arrival} {transfer kept : Option Transfer}
    {actions : List Action} (progress : arrival.Progress transfer last kept actions)
    (game : arrival.started = true) :
    ∀ action ∈ actions, action.isOfArrival = true ∧ action.isStart = false := by
  cases progress with
  | loggingIn login => simp [game] at login
  | spawned login => simp [game] at login
  | goesOn _ _ quiet => exact quiet

/-- A backend that has not spawned the player starts no transfer either. -/
theorem Arrival.Progress.unstarted {arrival last : Arrival} {transfer kept : Option Transfer}
    {actions : List Action} (progress : arrival.Progress transfer last kept actions)
    (login : last.started = false) :
    ∀ action ∈ actions, action.isOfArrival = true ∧ action.isStart = false := by
  cases progress with
  | loggingIn _ quiet => exact quiet
  | spawned => cases login
  | goesOn _ _ quiet => exact quiet

/-- Actions none of which starts a transfer. -/
theorem Action.filter_isStart {actions : List Action}
    (quiet : ∀ action ∈ actions, action.isOfArrival = true ∧ action.isStart = false) :
    actions.filter Action.isStart = [] := by
  simpa using fun action mem => (quiet action mem).2

section Arrival

variable {direction : Direction} {version : Version} {arrival : Arrival} {player : Player}
  {batch : Batch}

/-- What one packet of a new backend leads to. -/
theorem Handler.arrival_handle (arrival : Arrival) (player : Player) (packet : Packet) :
    arrival.Progress player.transfer (Handler.arrival.handle arrival player packet).state
      (Handler.arrival.handle arrival player packet).player.transfer
      (Handler.arrival.handle arrival player packet).actions := by
  unfold Handler.arrival
  dsimp only
  split
  next game =>
    unfold Arrival.handleGame
    dsimp only
    split
    next disconnect =>
      exact .goesOn game (.inl rfl) (by simp [Action.isOfArrival, Action.isStart])
    next change => exact .goesOn game (.inr ⟨change.dimension, rfl⟩) (by simp [Handled.untouched])
    all_goals exact .goesOn game (.inl rfl) (by simp [Handled.untouched])
  next login =>
    have login : arrival.started = false := by simpa using login
    unfold Arrival.handleLogin
    dsimp only
    split
    case h_3 status =>
      split
      · exact .loggingIn login (by simp [Action.isOfArrival, Action.isStart])
      · exact .loggingIn login (by simp)
    case h_5 start =>
      exact .spawned login ⟨rfl, rfl, rfl, rfl⟩ (by simp [Action.isOfArrival]) rfl
    all_goals exact .loggingIn login (by simp [Action.isOfArrival, Action.isStart])

/-- What follows on a stretch of progress takes it further. -/
theorem Arrival.Progress.trans {arrival middle last : Arrival}
    {transfer between final : Option Transfer} {first second : List Action}
    (here : arrival.Progress transfer middle between first)
    (next : middle.Progress between last final second) :
    arrival.Progress transfer last final (first ++ second) := by
  cases here with
  | loggingIn login quiet =>
    cases next with
    | loggingIn _ more => exact .loggingIn login (List.forall_mem_append.mpr ⟨quiet, more⟩)
    | spawned _ isFresh own once =>
      have later : (first ++ second).filter Action.isStart = second.filter Action.isStart := by
        rw [List.filter_append, Action.filter_isStart quiet, List.nil_append]
      exact .spawned login isFresh
        (List.forall_mem_append.mpr ⟨fun action mem => (quiet action mem).1, own⟩)
        (later.trans once)
    | goesOn game => simp [login] at game
  | @spawned fresh _ _ login isFresh own once =>
    have all (more : ∀ action ∈ second, action.isOfArrival = true ∧ action.isStart = false) :
        ∀ action ∈ first ++ second, action.isOfArrival = true :=
      List.forall_mem_append.mpr ⟨own, fun action mem => (more action mem).1⟩
    cases next with
    | loggingIn login => cases login
    | spawned login => cases login
    | goesOn _ aim more =>
      have still : (first ++ second).filter Action.isStart = first.filter Action.isStart := by
        rw [List.filter_append, Action.filter_isStart more, List.append_nil]
      rcases aim with rfl | ⟨dimension, rfl⟩
      · exact .spawned login isFresh (all more) (still.trans once)
      · have aimed : (fresh.toDimension dimension).IsFresh arrival :=
          ⟨isFresh.departing, isFresh.source, isFresh.target, isFresh.waiting⟩
        exact .spawned login aimed (all more) (still.trans once)
  | goesOn game aim quiet =>
    cases next with
    | loggingIn login => simp [game] at login
    | spawned login => simp [game] at login
    | goesOn _ further more =>
      refine .goesOn game ?_ (List.forall_mem_append.mpr ⟨quiet, more⟩)
      rcases further with rfl | ⟨dimension, rfl⟩
      · exact aim
      · rcases aim with rfl | ⟨_, rfl⟩
        · exact .inr ⟨dimension, rfl⟩
        · refine .inr ⟨dimension, ?_⟩
          cases transfer <;> rfl

/-- What a batch of a new backend leads to. -/
theorem process_arrival :
    arrival.Progress player.transfer
      (Bridge.process Handler.arrival direction version arrival player batch).state
      (Bridge.process Handler.arrival direction version arrival player batch).player.transfer
      (Bridge.process Handler.arrival direction version arrival player batch).actions := by
  apply Bridge.process_keeps fun state last actions =>
    arrival.Progress player.transfer state last.transfer actions
  · exact fun state last actions packet here =>
      here.trans (Handler.arrival_handle state last packet)
  · intro _ _ _ _ here
    exact here
  · cases started : arrival.started with
    | false => exact .loggingIn started (by simp)
    | true => exact .goesOn started (.inl rfl) (by simp)

end Arrival

end Ferry
