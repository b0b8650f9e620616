import Ferry.Proofs.Session.EventRules

/-!
# What a new backend sends for the client

Nothing that a new backend sends before it has spawned the player is let through, nor the packet
that spawns it. What comes later is bridged as for a backend that had spawned the player before.
-/

namespace Ferry

/-- What the first packet says that spawns the player, and the packets behind it. -/
def StartGame.first (version : Version) : List BatchPacket → Option (StartGame × List BatchPacket)
  | [] => none
  | packet :: rest =>
    match packet.decode version with
    | .ok (.startGame start) => some (start, rest)
    | _ => first version rest

/-- The packets behind the first that spawns the player are among all packets. -/
theorem StartGame.first_subset {version : Version} {packets rest : List BatchPacket}
    {start : StartGame} (spawned : first version packets = some (start, rest)) :
    rest ⊆ packets := by
  induction packets with
  | nil => cases spawned
  | cons packet packets ih =>
    simp only [first] at spawned
    split at spawned
    · cases spawned
      exact List.subset_cons_self _ _
    · exact List.Subset.trans (ih spawned) (List.subset_cons_self _ _)

/-- The packets ahead of the first that spawns the player. -/
def StartGame.ahead (version : Version) : List BatchPacket → List BatchPacket
  | [] => []
  | packet :: rest =>
    match packet.decode version with
    | .ok (.startGame _) => []
    | _ => packet :: ahead version rest

/-- Whether a packet refuses a player who is still logging in. -/
def BatchPacket.isRefusal (version : Version) (packet : BatchPacket) : Bool :=
  match packet.decode version with
  | .ok (.playStatus status) => status.isFailure
  | .ok (.disconnect _) => true
  | _ => false

/-- What has become of the packets that have crossed, and of those who have looked at them. -/
def Crossing.passage {σ : Type} (crossing : Crossing σ) : σ × Player × List BatchPacket :=
  (crossing.state, crossing.player, crossing.packets)

/-- A backend that is still logging the player in has all its packets taken out. All that one
of them can do is to spawn the player. -/
theorem Arrival.handleLogin_cancels (arrival : Arrival) (player : Player) (packet : Packet) :
    (arrival.handleLogin player packet).verdict = .cancel ∧
      ((arrival.handleLogin player packet).state, (arrival.handleLogin player packet).player) =
        match packet with
        | .startGame start => ({ arrival with started := true }, arrival.spawn player start)
        | _ => (arrival, player) := by
  cases packet with
  | playStatus status =>
    unfold handleLogin
    dsimp only
    split <;> exact ⟨rfl, rfl⟩
  | _ => exact ⟨rfl, rfl⟩

/-- A backend that is still logging the player in asks for a transfer when it spawns the player.
Nothing else that it sends starts one, and it fails with a refusal. -/
theorem Arrival.handleLogin_actions (arrival : Arrival) (player : Player) (packet : Packet)
    (spawns : ∀ start, packet ≠ .startGame start) :
    (∀ action ∈ (arrival.handleLogin player packet).actions,
        action.isOfArrival = true ∧ action.isStart = false) ∧
      ((∃ message, .transferFailed message ∈ (arrival.handleLogin player packet).actions) ↔
        match packet with
        | .playStatus status => status.isFailure = true
        | .disconnect _ => True
        | _ => False) := by
  cases packet with
  | startGame start => exact absurd rfl (spawns start)
  | playStatus status =>
    unfold handleLogin
    dsimp only
    split
    next failure => simp [Action.isOfArrival, Action.isStart, failure]
    next failure => simp [failure]
  | _ => simp [handleLogin, Action.isOfArrival, Action.isStart]

namespace Bridge

variable {σ : Type} {handler : Handler σ} {direction : Direction} {version : Version}

/-- What has been counted and asked for before makes no difference to a packet. -/
theorem cross_passage {first second : Crossing σ} {packet : BatchPacket}
    (same : first.passage = second.passage) :
    (cross handler direction version first packet).passage =
      (cross handler direction version second packet).passage := by
  obtain ⟨state, player, packets, report, actions⟩ := first
  obtain ⟨_, _, _, _, _⟩ := second
  simp only [Crossing.passage, Prod.mk.injEq] at same
  obtain ⟨rfl, rfl, rfl⟩ := same
  unfold cross
  dsimp only
  split
  · split
    · rfl
    · split <;> rfl
  · rfl

/-- What becomes of packets does not depend on what was counted before. -/
theorem foldl_cross_passage {first second : Crossing σ} (packets : List BatchPacket)
    (same : first.passage = second.passage) :
    (packets.foldl (cross handler direction version) first).passage =
      (packets.foldl (cross handler direction version) second).passage := by
  induction packets generalizing first second with
  | nil => exact same
  | cons packet packets ih => exact ih (cross_passage same)

/-- What goes on of a batch is what its packets have come to, one after the other. -/
@[simp] theorem process_packets {state : σ} {player : Player} {batch : Batch} :
    (process handler direction version state player batch).batch.packets =
      (batch.packets.foldl (cross handler direction version)
        ⟨state, player, [], BridgeReport.zero, []⟩).packets := by
  unfold process
  dsimp only
  split <;> rfl

/-- A backend that is still logging the player in has all its packets looked at. -/
theorem cross_of_login {crossing : Crossing Arrival} {packet : BatchPacket}
    (login : crossing.state.started = false) :
    isNoticed Handler.arrival .clientbound crossing.state crossing.player packet.header.id = true ∧
      ∀ value, handle Handler.arrival crossing.state crossing.player packet.header.id value =
        crossing.state.handleLogin crossing.player value := by
  have wanted : Handler.arrival.wants crossing.state packet.header.id = true := by
    simp [Handler.arrival, login]
  refine ⟨by simp [isNoticed, wanted], fun value => ?_⟩
  simp only [handle, wanted, if_true]
  simp [Handler.arrival, login]

/-- A packet of a backend that is still logging the player in is not let through. All that it
can do is to spawn the player. -/
theorem cross_login {crossing : Crossing Arrival} {packet : BatchPacket}
    (login : crossing.state.started = false) :
    (cross Handler.arrival .clientbound version crossing packet).passage =
      match packet.decode version with
      | .ok (.startGame start) => ({ crossing.state with started := true },
          crossing.state.spawn crossing.player start, crossing.packets)
      | _ => crossing.passage := by
  obtain ⟨noticed, handled⟩ := @cross_of_login crossing packet login
  unfold cross
  simp only [noticed, if_true]
  cases decoded : packet.decode version with
  | error fault => rfl
  | ok value =>
    obtain ⟨canceled, spawned⟩ := crossing.state.handleLogin_cancels crossing.player value
    simp only [handled, canceled]
    cases value with
    | startGame start => rfl
    | _ =>
      obtain ⟨state, player⟩ := Prod.mk.inj spawned
      simp only [Crossing.passage, state, player]

/-- What a packet of a backend asks for that is still logging the player in. -/
theorem cross_login_actions {crossing : Crossing Arrival} {packet : BatchPacket}
    (login : crossing.state.started = false) :
    (cross Handler.arrival .clientbound version crossing packet).actions = crossing.actions ++
      match packet.decode version with
      | .ok value => (crossing.state.handleLogin crossing.player value).actions
      | .error _ => [] := by
  obtain ⟨noticed, handled⟩ := @cross_of_login crossing packet login
  unfold cross
  simp only [noticed, if_true]
  cases decoded : packet.decode version with
  | error fault => simp
  | ok value =>
    simp only [handled, (crossing.state.handleLogin_cancels crossing.player value).1]

/-- The packets that are let through are those that come after the player was spawned. -/
theorem foldl_cross_login {crossing : Crossing Arrival} (packets : List BatchPacket)
    (login : crossing.state.started = false) :
    (packets.foldl (cross Handler.arrival .clientbound version) crossing).passage =
      match StartGame.first version packets with
      | some (start, rest) => (rest.foldl (cross Handler.arrival .clientbound version)
          ⟨{ crossing.state with started := true }, crossing.state.spawn crossing.player start,
            crossing.packets, BridgeReport.zero, []⟩).passage
      | none => crossing.passage := by
  induction packets generalizing crossing with
  | nil => rfl
  | cons packet packets ih =>
    have step := @cross_login version crossing packet login
    simp only [List.foldl_cons, StartGame.first]
    split at step
    next start spawned => exact foldl_cross_passage packets step
    next other =>
      obtain ⟨state, rest⟩ := Prod.mk.inj step
      obtain ⟨player, kept⟩ := Prod.mk.inj rest
      rw [ih (by rw [state]; exact login), step, state, player, kept]

/-- What a backend asks for that has spawned the player does not start a transfer. -/
theorem foldl_cross_game {crossing : Crossing Arrival} (packets : List BatchPacket)
    (game : crossing.state.started = true) :
    ∃ more, (packets.foldl (cross Handler.arrival .clientbound version) crossing).actions =
        crossing.actions ++ more ∧
      ∀ action ∈ more, action.isOfArrival = true ∧ action.isStart = false := by
  let inv (state : Arrival) (_ : Player) (actions : List Action) : Prop :=
    state.started = true ∧ ∃ more, actions = crossing.actions ++ more ∧
      ∀ action ∈ more, action.isOfArrival = true ∧ action.isStart = false
  have kept : ∀ (packets : List BatchPacket) (here : Crossing Arrival),
      inv here.state here.player here.actions →
      inv (packets.foldl (cross Handler.arrival .clientbound version) here).state
        (packets.foldl (cross Handler.arrival .clientbound version) here).player
        (packets.foldl (cross Handler.arrival .clientbound version) here).actions := by
    intro packets
    induction packets with
    | nil => exact fun _ holds => holds
    | cons packet packets ih =>
      intro here holds
      refine ih _ (cross_keeps inv ?_ (fun _ _ _ _ same => same) holds)
      rintro state player actions value ⟨started, more, rfl, quiet⟩
      have progress := Handler.arrival_handle state player value
      exact ⟨progress.started started, more ++ (Handler.arrival.handle state player value).actions,
        List.append_assoc _ _ _, List.forall_mem_append.mpr ⟨quiet, progress.quiet started⟩⟩
  exact (kept packets crossing ⟨game, [], by simp⟩).2

/-- What a batch asks for that spawns the player: ahead of the start of the transfer there are
answers, and a failure where the backend has refused the player before. -/
theorem foldl_cross_spawn {crossing : Crossing Arrival} {start : StartGame}
    {packets rest : List BatchPacket} (login : crossing.state.started = false)
    (spawned : StartGame.first version packets = some (start, rest)) :
    ∃ before behind,
      (packets.foldl (cross Handler.arrival .clientbound version) crossing).actions =
        crossing.actions ++ before ++
          .transferStarted crossing.player.scene.teardown :: behind ∧
      (∀ action ∈ before, action.isOfArrival = true ∧ action.isStart = false) ∧
      (∀ action ∈ behind, action.isOfArrival = true ∧ action.isStart = false) ∧
      ((∃ message, .transferFailed message ∈ before) ↔
        (StartGame.ahead version packets).any (BatchPacket.isRefusal version) = true) := by
  induction packets generalizing crossing with
  | nil => cases spawned
  | cons packet packets ih =>
    have step := @cross_login version crossing packet login
    have asked := @cross_login_actions version crossing packet login
    simp only [StartGame.first] at spawned
    simp only [List.foldl_cons, StartGame.ahead]
    split at spawned
    next first decoded =>
      rw [decoded] at step asked
      obtain ⟨more, actions, quiet⟩ := @foldl_cross_game version
        (cross Handler.arrival .clientbound version crossing packet) packets
        (congrArg (fun passage => passage.1.started) step)
      refine ⟨[], .reply (Arrival.radiusRequest crossing.player) :: more, ?_, by simp,
        List.forall_mem_cons.mpr ⟨⟨rfl, rfl⟩, quiet⟩, by simp⟩
      rw [actions, asked]
      simp [Arrival.handleLogin]
    next other =>
      have still : (cross Handler.arrival .clientbound version crossing packet).passage =
          crossing.passage := by
        rw [step]
        split
        next start decoded => exact absurd decoded (other start)
        next => rfl
      obtain ⟨state, rest⟩ := Prod.mk.inj still
      have player := (Prod.mk.inj rest).1
      obtain ⟨before, behind, actions, quiet, further, refusal⟩ :=
        ih (by rw [state]; exact login) spawned
      rw [player] at actions
      cases decoded : packet.decode version with
      | error fault =>
        rw [decoded] at asked
        refine ⟨before, behind, by rw [actions, asked, List.append_nil], quiet, further, ?_⟩
        simpa [BatchPacket.isRefusal, decoded] using refusal
      | ok value =>
        rw [decoded] at asked
        obtain ⟨answers, fails⟩ := crossing.state.handleLogin_actions crossing.player value
          fun start same => other start (by rw [decoded, same])
        refine ⟨_ ++ before, behind, by rw [actions, asked, List.append_assoc crossing.actions],
          List.forall_mem_append.mpr ⟨answers, quiet⟩, further, ?_⟩
        simp only [List.mem_append, exists_or, fails, refusal]
        cases value with
        | startGame start => exact absurd decoded (other start)
        | _ => simp [BatchPacket.isRefusal, decoded]

end Bridge

namespace Session

/-- The packets of a batch from a new backend that are let through, as they are bridged: those
that it has sent after it spawned the player. -/
def sentSinceSpawn (session : Session) (pending : PendingBackend) (batch : Batch) :
    List BatchPacket :=
  let version := pending.peer.connection.version
  let game : Arrival := { pending.arrival with started := true }
  let bridged (player : Player) (batch : Batch) : List BatchPacket :=
    (Bridge.process Handler.arrival .clientbound version game player batch).batch.packets
  if pending.arrival.started then bridged session.player batch
  else
    match StartGame.first version batch.packets with
    | some (start, rest) =>
      bridged (pending.arrival.spawn session.player start) { batch with packets := rest }
    | none => []

/-- What is let through from a new backend it has sent after it spawned the player. -/
theorem fromPending_packets {session : Session} {pending : PendingBackend} {batch : Batch} :
    (session.fromPending pending batch).batch.packets = session.sentSinceSpawn pending batch := by
  unfold sentSinceSpawn fromPending
  dsimp only
  split
  next game =>
    have still : ({ pending.arrival with started := true } : Arrival) = pending.arrival := by
      cases arrival : pending.arrival with
      | mk source target limits started =>
        rw [arrival] at game
        simpa using game.symm
    rw [still]
  next login =>
    have login : pending.arrival.started = false := by simpa using login
    have crossed := congrArg (fun passage => passage.2.2)
      (@Bridge.foldl_cross_login pending.peer.connection.version
        ⟨pending.arrival, session.player, [], BridgeReport.zero, []⟩ batch.packets login)
    rw [Bridge.process_packets]
    refine crossed.trans ?_
    dsimp only
    cases StartGame.first pending.peer.connection.version batch.packets with
    | none => rfl
    | some spawned =>
      dsimp only
      rw [Bridge.process_packets]
      rfl

/-- Nothing is let through from a backend that has not spawned the player. -/
theorem fromPending_of_login {session : Session} {pending : PendingBackend} {batch : Batch}
    (login : (session.fromPending pending batch).state.started = false) :
    (session.fromPending pending batch).batch.packets = [] := by
  cases started : pending.arrival.started with
  | true =>
    have game := (Work.fromPending_progress session pending batch).started started
    exact absurd game (by simp [login])
  | false =>
    have crossed := @Bridge.foldl_cross_login pending.peer.connection.version
      ⟨pending.arrival, session.player, [], BridgeReport.zero, []⟩ batch.packets started
    rw [fromPending_packets]
    unfold sentSinceSpawn
    simp only [started, Bool.false_eq_true, if_false]
    cases spawned : StartGame.first pending.peer.connection.version batch.packets with
    | none => rfl
    | some first =>
      obtain ⟨start, rest⟩ := first
      rw [spawned] at crossed
      have progress := @process_arrival .clientbound pending.peer.connection.version
        { pending.arrival with started := true } (pending.arrival.spawn session.player start)
        { batch with packets := rest }
      have game : (session.fromPending pending batch).state.started = true :=
        (congrArg (fun passage => passage.1.started) crossed).trans (progress.started rfl)
      exact absurd game (by simp [login])

end Session

end Ferry
