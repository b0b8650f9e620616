import Ferry.Proofs.Session.PacketAccount

/-!
# Where a player goes whose transfer has failed

Another server is looked for in place of the one that a transfer was to end on, and the player
is called there. What else a batch reports goes on from there: each further failure takes the
player away from the server that it was just called to.
-/

namespace Ferry

/-- The servers in place of which another one was looked for, and what was found. -/
def sought (outputs : List Output) : List (Server × Option Server) :=
  outputs.filterMap fun
    | .soughtFallback lost found => some (lost, found)
    | _ => none

/-- The failure that an action reports. -/
def Action.failure? : Action → Option String
  | .transferFailed message => some message
  | _ => none

/-- The failures that come to light as actions of a new backend are done. If a transfer starts
before, and the client is not open, the session ends without any. -/
def failuresReached (opened : Bool) : List Action → List String
  | [] => []
  | .transferFailed message :: actions => message :: actions.filterMap Action.failure?
  | .transferStarted _ :: actions => if opened then failuresReached opened actions else []
  | _ :: actions => failuresReached opened actions

/-- The failures that a new backend reports with a frame, or by the end of its link. -/
def Session.failuresOf (session : Session) (pending : PendingBackend) :
    Option Bytes → List String
  | none => [Work.connectionClosed]
  | some frame =>
    match (pending.peer.connection.decode frame).1 with
    | .error fault => [fault.message]
    | .ok batch =>
      failuresReached session.client.isOpen (session.askedByPending pending batch)

/-- The server that a player goes to in place of one that a transfer to has failed with a
message, if that is another one. -/
def SessionServices.refuge (services : SessionServices) (lost : Server) (message : String) :
    Option Server :=
  (services.fallback lost (.transferFailed lost.name message) message).filter fun server =>
    !server.same lost

/-- What is looked for as failures come to light one after the other, each of them on the way to
the server that was found last. -/
def SessionServices.refuges (services : SessionServices) :
    Server → List String → List (Server × Option Server)
  | _, [] => []
  | lost, message :: messages =>
    (lost, services.fallback lost (.transferFailed lost.name message) message) ::
      match services.refuge lost message with
      | some server => services.refuges server messages
      | none => []

/-- Where a player ends up who was on its way to a server, once failures have come to light one
after the other, unless the session ends. -/
def SessionServices.resort (services : SessionServices) : Server → List String → Option Server
  | lost, [] => some lost
  | lost, message :: messages =>
    match services.refuge lost message with
    | some server => services.resort server messages
    | none => none

/-- Whether the player is called to a server; or else the session is to end. -/
def Session.EndsUp (session : Session) : Option Server → Prop
  | some server => session.exit = none ∧ session.connecting.map Connecting.server = some server
  | none => session.exit ≠ none

/-- Whether the player is called to a server; or else the session is over. -/
def Session.ResortsTo (session : Session) : Option Server → Prop
  | some server => session.connecting.map Connecting.server = some server
  | none => session.stage = .over

section Sought

/-- What is looked for later is noted later. -/
@[simp] theorem sought_append {first second : List Output} :
    sought (first ++ second) = sought first ++ sought second :=
  List.filterMap_append

/-- Nobody is looked for by outputs that only carry packets. -/
theorem sought_of_onlyTraffic {outputs : List Output} (traffic : OnlyTraffic outputs) :
    sought outputs = [] := by
  refine List.filterMap_eq_nil_iff.mpr fun output mem => ?_
  have carries := traffic output mem
  cases output with
  | soughtFallback lost found => cases carries
  | _ => rfl

/-- To close the link of the backend takes only traffic. -/
theorem backendClosing_traffic {session : Session} : OnlyTraffic session.backendClosing := by
  unfold Session.backendClosing
  cases session.backend with
  | none => exact onlyTraffic_nil
  | some backend => exact Peer.onlyTraffic_close

/-- To close the link of the new backend takes only traffic. -/
theorem pendingClosing_traffic {session : Session} : OnlyTraffic session.pendingClosing := by
  unfold Session.pendingClosing
  cases session.pending with
  | none => exact onlyTraffic_nil
  | some pending => exact Peer.onlyTraffic_close

/-- A session that ends looks for no other server. -/
@[simp] theorem sought_closedDown {turn : SessionTurn} {exit : Exit} :
    sought (turn.closedDown exit).outputs = sought turn.outputs := by
  unfold SessionTurn.closedDown
  simp only [sought_append, sought_of_onlyTraffic pendingClosing_traffic,
    sought_of_onlyTraffic backendClosing_traffic, sought_of_onlyTraffic Peer.onlyTraffic_close,
    List.append_nil]

/-- A transfer that is given up sends the player to the refuge, or ends the session. -/
theorem abandoned_cases (turn : SessionTurn) (target : Server) (message : String) :
    let after := turn.abandoned target message
    sought after.outputs = sought turn.outputs ++
        [(target, turn.session.services.fallback target (.transferFailed target.name message)
          message)] ∧
      after.session.services = turn.session.services ∧
      after.session.player.transfer = none ∧
      match turn.session.services.refuge target message with
      | some server => after.session.exit = turn.session.exit ∧ after.session.pending = none ∧
          after.session.connecting.map Connecting.server = some server
      | none => after.session.exit ≠ none := by
  have silent : sought turn.adrift.outputs = sought turn.outputs := by
    simp only [SessionTurn.adrift, sought_append, sought_of_onlyTraffic pendingClosing_traffic,
      sought_of_onlyTraffic backendClosing_traffic, List.append_nil]
  intro after
  have same : turn.adrift.session.refuge target (.transferFailed target.name message) message =
      turn.session.services.refuge target message := rfl
  simp only [after, SessionTurn.abandoned, SessionTurn.fallenBack, same]
  cases turn.session.services.refuge target message with
  | some server =>
    refine ⟨?_, rfl, rfl, rfl, rfl, rfl⟩
    rw [sought_append, silent]
    rfl
  | none =>
    refine ⟨?_, rfl, rfl, by simp⟩
    rw [sought_append, silent]
    rfl

end Sought

/-- A session whose player has just been called to a server. -/
structure Session.Called (session : Session) (server : Server) : Prop where
  going : session.exit = none
  free : session.player.transfer = none
  alone : session.pending = none
  called : session.connecting.map Connecting.server = some server

/-- A session whose player is moving to a server that it still hears from. -/
structure Session.Bound (session : Session) (target : Server) : Prop where
  going : session.exit = none
  met : ∃ pending, session.pending = some pending ∧ pending.peer.queue.dead = false
  bound : Work.destination session = some target

namespace Work

variable {turn : SessionTurn}

/-- What is looked for as actions of a new backend are done and failures come to light, and
where the player ends up. None of these actions fails the session. -/
abbrev Seeks (actions : List Action) (turn : SessionTurn) (lost : Server)
    (failures : List String) : Prop :=
  (actAll .pending actions).Leads turn
    (fun _ after =>
      sought after.outputs =
          sought turn.outputs ++ turn.session.services.refuges lost failures ∧
        after.session.EndsUp (turn.session.services.resort lost failures))
    fun _ _ => False

/-- A failure on the way to a server is followed by whatever follows the call to its refuge. -/
theorem seeks_failure {actions : List Action} {target : Server} {message : String}
    (going : turn.session.exit = none) (bound : destination turn.session = some target)
    (further : ∀ (after : SessionTurn) (server : Server), after.session.Called server →
      Seeks actions after server (actions.filterMap Action.failure?)) :
    Seeks (.transferFailed message :: actions) turn target
      (message :: actions.filterMap Action.failure?) := by
  obtain ⟨grown, services, free, next⟩ := abandoned_cases turn target message
  refine leads_actAll_cons.mpr (leads_failTransfer.mpr ?_)
  rw [bound]
  dsimp only
  unfold SessionServices.refuges SessionServices.resort
  cases refuge : turn.session.services.refuge target message with
  | none =>
    rw [refuge] at next
    obtain ⟨exit, ends⟩ := Option.ne_none_iff_exists'.mp next
    rw [ends]
    exact ⟨grown, next⟩
  | some server =>
    rw [refuge] at next
    obtain ⟨exit, alone, called⟩ := next
    have stays : (turn.abandoned target message).session.exit = none := exit.trans going
    rw [stays]
    refine (further _ server ⟨stays, free, alone, called⟩).mono ?_ fun _ _ never => never
    rintro _ last ⟨found, up⟩
    rw [services] at found up
    refine ⟨?_, up⟩
    rw [found, grown, List.append_assoc]
    rfl

/-- What is looked for as the rest of a batch is done whose player was just called away. -/
theorem seeks_of_called {actions : List Action}
    (own : ∀ action ∈ actions, action.isOfArrival = true) (turn : SessionTurn) (lost : Server)
    (called : turn.session.Called lost) :
    Seeks actions turn lost (actions.filterMap Action.failure?) := by
  induction actions generalizing turn lost with
  | nil => exact ⟨(List.append_nil _).symm, called.going, called.called⟩
  | cons action actions ih =>
    have rest : ∀ action ∈ actions, action.isOfArrival = true :=
      fun action mem => own action (List.mem_cons_of_mem _ mem)
    have idle (still : action.failure? = none)
        (same : (act .pending action).Leads turn (fun _ after => after = turn) fun _ _ => False) :
        Seeks (action :: actions) turn lost ((action :: actions).filterMap Action.failure?) := by
      refine leads_actAll_cons.mpr (same.mono ?_ fun _ _ never => never)
      rintro _ _ rfl
      rw [called.going, List.filterMap_cons_none still]
      exact ih rest _ lost called
    cases action with
    | reply packet =>
      refine idle rfl ?_
      simp only [act, reply]
      exact (leads_toPending_of_none called.alone).mpr rfl
    | transferStarted teardown =>
      exact idle rfl ((leads_startTransfer_of_none called.free).mpr rfl)
    | transferFailed message =>
      have bound : destination turn.session = some lost := by
        simp [destination, called.free, called.alone, called.called]
      exact seeks_failure called.going bound (ih rest)
    | dimensionChanged => cases own _ List.mem_cons_self
    | kicked message => cases own _ List.mem_cons_self

/-- A turn that goes on towards the same server, and has looked for no other. -/
structure GoesOnTo (target : Server) (turn after : SessionTurn) : Prop where
  bound : after.session.Bound target
  services : after.session.services = turn.session.services
  opened : after.session.client.isOpen = turn.session.client.isOpen
  transfer : after.session.player.transfer = turn.session.player.transfer
  silent : sought after.outputs = sought turn.outputs

/-- A reply to a new backend changes nothing but its peer, and does not fail. -/
theorem goesOnTo_reply {target : Server} {packet : Packet} (bound : turn.session.Bound target) :
    (act .pending (.reply packet)).Leads turn (fun _ after => GoesOnTo target turn after)
      fun _ _ => False := by
  obtain ⟨pending, met, alive⟩ := bound.met
  have tolerated : tolerate (pending.peer.sendNow [packet]).1 = .ok () := by
    rw [Peer.sendNow_result, alive]
    cases pending.peer.connection.severed <;> rfl
  have same : destination { turn.session with
      pending := some { pending with peer := (pending.peer.sendNow [packet]).2.1 } } =
      destination turn.session := by
    simp [destination, met]
  simp only [act, reply]
  refine (leads_toPending met).mpr ?_
  rw [tolerated]
  refine ⟨⟨bound.going, ⟨_, rfl, ?_⟩, same.trans bound.bound⟩, rfl, rfl, rfl, ?_⟩
  · rw [Peer.sendNow_queue, alive]
  · rw [sought_append, sought_of_onlyTraffic Peer.onlyTraffic_sendNow, List.append_nil]

/-- The client is sent away if it is open, and else the session fails. -/
theorem goesOnTo_start {target : Server} {teardown : List Packet}
    (bound : turn.session.Bound target) (away : turn.session.player.transfer.isSome = true) :
    (act .pending (.transferStarted teardown)).Leads turn
      (fun _ after => turn.session.client.isOpen = true ∧ GoesOnTo target turn after)
      fun _ after =>
        turn.session.client.isOpen = false ∧ sought after.outputs = sought turn.outputs := by
  obtain ⟨transfer, moving⟩ := Option.isSome_iff_exists.mp away
  let rebuilt : SessionTurn := ⟨turn.session.setOff transfer, turn.outputs ++ [.packsRebuilt]⟩
  let told := rebuilt.told (teardown ++ turn.session.player.departurePackets transfer)
  have silent : sought told.outputs = sought turn.outputs := by
    simp only [told, rebuilt, SessionTurn.told, sought_append,
      sought_of_onlyTraffic Peer.onlyTraffic_sendNow, List.append_nil]
    exact List.append_nil _
  have opened : told.session.client.isOpen = turn.session.client.isOpen := by
    simp [told, rebuilt, SessionTurn.told, Peer.isOpen, Session.setOff]
  refine (leads_startTransfer moving).mpr ((leads_told ?_).mpr ?_)
  · simp [Player.departurePackets]
  · cases here : turn.session.client.isOpen with
    | false =>
      rw [if_neg (by simp [Session.setOff, here])]
      exact ⟨rfl, silent⟩
    | true =>
      rw [if_pos (by simpa [Session.setOff] using here)]
      exact ⟨rfl, ⟨bound.going, bound.met, bound.bound⟩, rfl, opened, rfl, silent⟩

/-- What is looked for as the actions of a new backend are done. -/
theorem sought_actAll {actions : List Action} {target : Server}
    (bound : turn.session.Bound target)
    (own : ∀ action ∈ actions, action.isOfArrival = true)
    (started : ∀ action ∈ actions, action.isStart = true →
      turn.session.player.transfer.isSome = true) :
    let failures := failuresReached turn.session.client.isOpen actions
    (actAll .pending actions).Leads turn
      (fun _ after => sought after.outputs =
          sought turn.outputs ++ turn.session.services.refuges target failures ∧
        (failures ≠ [] → after.session.EndsUp (turn.session.services.resort target failures)))
      fun _ after => sought after.outputs = sought turn.outputs ∧ failures = [] := by
  induction actions generalizing turn with
  | nil => exact ⟨(List.append_nil _).symm, fun fails => absurd rfl fails⟩
  | cons action actions ih =>
    have rest : ∀ action ∈ actions, action.isOfArrival = true :=
      fun action mem => own action (List.mem_cons_of_mem _ mem)
    have later : ∀ action ∈ actions, action.isStart = true →
        turn.session.player.transfer.isSome = true :=
      fun action mem => started action (List.mem_cons_of_mem _ mem)
    -- Whatever goes on towards the same server leaves the rest of the actions to it.
    have onward {after : SessionTurn} (goes : GoesOnTo target turn after) :=
      ih goes.bound rest (by rw [goes.transfer]; exact later)
    intro failures
    cases action with
    | reply packet =>
      refine leads_actAll_cons.mpr ((goesOnTo_reply bound).mono ?_ fun _ _ => False.elim)
      intro _ after goes
      have next := onward goes
      rw [goes.services, goes.opened, goes.silent] at next
      rw [goes.bound.going]
      exact next
    | transferStarted teardown =>
      refine leads_actAll_cons.mpr
        ((goesOnTo_start bound (started _ List.mem_cons_self rfl)).mono ?_ ?_)
      · rintro _ after ⟨opened, goes⟩
        have reached : failures = failuresReached turn.session.client.isOpen actions := by
          simp only [failures, opened, failuresReached, if_true]
        have next := onward goes
        rw [goes.services, goes.opened, goes.silent, ← reached] at next
        rw [goes.bound.going]
        exact next
      · rintro _ after ⟨shut, silent⟩
        refine ⟨silent, ?_⟩
        simp only [failures, shut, failuresReached, Bool.false_eq_true, if_false]
    | transferFailed message =>
      exact (seeks_failure bound.going bound.bound (seeks_of_called rest)).mono
        (fun _ _ here => ⟨here.1, fun _ => here.2⟩) fun _ _ => False.elim
    | dimensionChanged => cases own _ List.mem_cons_self
    | kicked message => cases own _ List.mem_cons_self

end Work

/-! ## Events of a new backend -/

/-- To count is not to look for a server. -/
@[simp] theorem sought_counted {counted : List Observation} :
    sought (counted.map Output.counted) = [] :=
  sought_of_onlyTraffic onlyTraffic_counted

/-- For a single failure one other server is looked for. -/
@[simp] theorem SessionServices.refuges_one {services : SessionServices} {lost : Server}
    {message : String} : services.refuges lost [message] =
      [(lost, services.fallback lost (.transferFailed lost.name message) message)] := by
  unfold refuges
  cases services.refuge lost message <;> rfl

namespace Session

variable {session : Session} {pending : PendingBackend}

/-- A player that moves to another backend is bound for it. -/
theorem destination_of_pending (course : session.Course) (met : session.pending = some pending) :
    Work.destination session = some pending.arrival.target := by
  rcases course.of_pending met with ⟨-, free⟩ | ⟨transfer, -, moving, -, aimed⟩
  · simp [Work.destination, free, met]
  · simp [Work.destination, moving, aimed]

/-- What a new backend asks for starts a transfer only where one is in progress. -/
theorem askedByPending_started {frame : Bytes} {batch : Batch} {action : Action}
    (turn : SessionTurn) (mem : action ∈ turn.session.askedByPending pending batch)
    (starts : action.isStart = true) :
    (turn.tookFromPending pending frame batch).session.player.transfer.isSome = true := by
  have aim := @Work.keptFromPending_aim batch turn.session pending
  have progress := Work.fromPending_progress turn.session pending batch
  rcases List.mem_append.mp mem with mem | mem
  · have moved := progress.isStart mem starts
    rw [← Option.isSome_map (f := fun transfer => (transfer.phase, transfer.target)), ← aim,
      Option.isSome_map] at moved
    exact moved
  · unfold keptFromPending at mem
    dsimp only at mem
    split at mem
    · obtain ⟨message, rfl⟩ := Work.keepWaiting_actions mem
      cases starts
    · cases mem

/-- A failure that is reported outside of a batch. -/
theorem seeks_failTransfer {turn : SessionTurn} {message : String} {target : Server}
    (silent : sought turn.outputs = []) (bound : Work.destination turn.session = some target)
    (going : turn.session.exit = none) :
    (Work.failTransfer message).Leads turn
      (fun _ after => sought after.outputs = turn.session.services.refuges target [message] ∧
        after.session.EndsUp (turn.session.services.resort target [message]))
      fun _ _ => False := by
  obtain ⟨grown, -, -, next⟩ := abandoned_cases turn target message
  rw [Work.leads_failTransfer, bound]
  dsimp only
  rw [grown, silent, SessionServices.refuges_one]
  refine ⟨rfl, ?_⟩
  unfold SessionServices.resort
  cases refuge : turn.session.services.refuge target message with
  | some server =>
    rw [refuge] at next
    exact ⟨next.1.trans going, next.2.2⟩
  | none =>
    rw [refuge] at next
    exact next

/-- A session that goes on calls the player where it ends up. -/
theorem EndsUp.resortsTo {found : Option Server} (up : session.EndsUp found)
    (going : session.exit = none) : session.ResortsTo found := by
  cases found with
  | some server => exact up.2
  | none => exact absurd going up

/-- A session that is to end has found no server. -/
theorem EndsUp.nowhere {found : Option Server} {exit : Exit} (up : session.EndsUp found)
    (ends : session.exit = some exit) : found = none := by
  cases found with
  | some server => cases ends.symm.trans up.1
  | none => rfl

/-- What is looked for when a new backend is heard from, or its link ends. -/
theorem sought_onPending {frame : Option Bytes} (sound : session.Sound)
    (met : session.pending = some pending) :
    let failures := session.failuresOf pending frame
    (Work.onEvent (.pending frame)).Leads ⟨session, []⟩
      (fun _ after =>
        sought after.outputs = session.services.refuges pending.arrival.target failures ∧
          (failures ≠ [] →
            after.session.EndsUp (session.services.resort pending.arrival.target failures)))
      fun _ after => sought after.outputs = [] ∧ failures = [] := by
  obtain ⟨-, going, course⟩ := sound.coherent.of_pending met
  have bound := destination_of_pending course met
  intro failures
  cases frame with
  | none =>
    exact (seeks_failTransfer rfl bound going).mono (fun _ _ here => ⟨here.1, fun _ => here.2⟩)
      fun _ _ => False.elim
  | some frame =>
    cases decoded : (pending.peer.connection.decode frame).1 with
    | error fault =>
      have reported : failures = [fault.message] := by simp [failures, failuresOf, decoded]
      rw [reported]
      refine (Work.leads_onPending_of_error met decoded).mpr ((seeks_failTransfer ?_ ?_ going).mono
        (fun _ _ here => ⟨here.1, fun _ => here.2⟩) fun _ _ => False.elim)
      · exact sought_counted
      · simpa [Work.destination, met] using bound
    | ok batch =>
      have reported : failures =
          failuresReached session.client.isOpen (session.askedByPending pending batch) := by
        simp [failures, failuresOf, decoded]
      let base : SessionTurn := ⟨session, []⟩
      let took := base.tookFromPending pending frame batch
      have onward : took.session.Course := Work.course_of_pending course met
      have target : (session.fromPending pending batch).state.target = pending.arrival.target :=
        (Work.fromPending_progress session pending batch).target
      have still : took.session.Bound pending.arrival.target :=
        ⟨going, ⟨_, rfl, (sound.tidy.pending pending met).1.alive⟩,
          target ▸ destination_of_pending onward rfl⟩
      have silent : sought took.outputs = [] := by
        simp [took, base, SessionTurn.tookFromPending, Peer.decodingCounted]
      have found := Work.sought_actAll still
        (fun _ mem => Work.askedByPending_own mem)
        fun _ mem starts => askedByPending_started base mem starts
      rw [silent] at found
      rw [reported]
      exact (Work.leads_onPending met decoded).mpr found

/-- For every failure that a new backend reports another server is looked for, in place of the
one that the player is on its way to by then; and the player ends up with the last of them, or
the session is over. -/
theorem sought_pending {frame : Option Bytes} (sound : session.Sound)
    (met : session.pending = some pending) :
    let failures := session.failuresOf pending frame
    sought (session.handle (.pending frame)).2 =
        session.services.refuges pending.arrival.target failures ∧
      (failures ≠ [] → (session.handle (.pending frame)).1.ResortsTo
        (session.services.resort pending.arrival.target failures)) := by
  intro failures
  obtain ⟨playing, -, -⟩ := sound.coherent.of_pending met
  refine handle_of_leads (fun turn => sought turn.outputs = _ ∧
    (failures ≠ [] → turn.session.ResortsTo _)) playing (by simp)
    ((sought_onPending sound met).mono ?_ ?_)
  · rintro _ after ⟨found, up⟩
    refine ⟨fun stays => ⟨found, fun fails => (up fails).resortsTo stays⟩, fun exit ends => ?_⟩
    refine ⟨by rw [sought_closedDown, found], fun fails => ?_⟩
    rw [(up fails).nowhere ends]
    exact rfl
  · rintro _ after ⟨silent, unreached⟩
    refine ⟨?_, fun fails => absurd unreached fails⟩
    rw [sought_closedDown, silent, show failures = [] from unreached]
    rfl

/-- After every run, an attempt at a transfer that fails by what the new backend sends, or by
the end of its link, is followed by one consultation, in place of its own target, and by the
call that this leads to, exactly where the backend reports one failure at once, or the first of
them has no refuge. Any further failure gives that call up again. -/
theorem play_sought_once (login : LoginData) (services : SessionServices) (client : Connection)
    (initial : Server) (moves : List Move) {pending : PendingBackend} {frame : Option Bytes}
    (met : ((start login services client initial).1.play moves).1.pending = some pending)
    (fails : ((start login services client initial).1.play moves).1.failuresOf pending frame ≠ []) :
    let session := ((start login services client initial).1.play moves).1
    let failures := session.failuresOf pending frame
    let refuge := failures.head?.bind (session.services.refuge pending.arrival.target)
    (sought (session.handle (.pending frame)).2).map Prod.fst = [pending.arrival.target] ∧
        (session.handle (.pending frame)).1.ResortsTo refuge ↔
      failures.length = 1 ∨ refuge = none := by
  intro session failures refuge
  obtain ⟨found, resorts⟩ := sought_pending (play_sound login services client initial moves) met
  have resorts : (session.handle (.pending frame)).1.ResortsTo
      (session.services.resort pending.arrival.target failures) := resorts fails
  have found : sought (session.handle (.pending frame)).2 =
      session.services.refuges pending.arrival.target failures := found
  rw [found]
  cases reported : failures with
  | nil => exact absurd reported fails
  | cons message later =>
    have first : refuge = session.services.refuge pending.arrival.target message := by
      simp [refuge, reported]
    rw [reported] at resorts
    cases next : session.services.refuge pending.arrival.target message with
    | none =>
      rw [first, next]
      simp only [SessionServices.refuges, SessionServices.resort, next] at resorts ⊢
      exact ⟨fun _ => .inr trivial, fun _ => ⟨rfl, resorts⟩⟩
    | some server =>
      rw [first, next]
      simp only [SessionServices.refuges, SessionServices.resort, next] at resorts ⊢
      cases later with
      | nil => exact ⟨fun _ => .inl rfl, fun _ => ⟨rfl, resorts⟩⟩
      | cons second rest => simp [SessionServices.refuges]

/-- A backend that says why it refuses the player, and nothing else. -/
theorem play_sought_once_refused :
    let session := (Sample.session.play Sample.moving).1
    let refusal := Sample.frame [.disconnect (Disconnect.ofMessage "full")]
    session.pending = some Sample.pending ∧
      session.failuresOf Sample.pending (some refusal) ≠ [] ∧
      (sought (session.handle (.pending (some refusal))).2).map Prod.fst = [Sample.survival] := by
  have fails : (Sample.session.play Sample.moving).1.failuresOf Sample.pending
      (some (Sample.frame [.disconnect (Disconnect.ofMessage "full")])) ≠ [] := by
    decide +kernel
  have single : ((Sample.session.play Sample.moving).1.failuresOf Sample.pending
      (some (Sample.frame [.disconnect (Disconnect.ofMessage "full")]))).length = 1 := by
    decide +kernel
  exact ⟨Sample.met, fails, ((play_sought_once _ _ _ _ _ Sample.met fails).mpr (.inl single)).1⟩

/-- A backend that sends a failing status and the reason behind it, as a server does that
refuses a login: the hub is found in place of the survival server, and then it is given up
itself, for the lobby. -/
theorem sought_twice :
    let session := (Sample.session.play Sample.moving).1
    let refusal := Sample.frame [.playStatus ⟨1⟩, .disconnect (Disconnect.ofMessage "full")]
    let turn := session.handle (.pending (some refusal))
    session.pending = some Sample.pending ∧
      (sought turn.2).map (fun consulted => consulted.1.name) = ["survival", "hub"] ∧
      (sought turn.2).map Prod.fst ≠ [Sample.survival] ∧
      turn.1.connecting.map (fun connecting => connecting.server.name) = some "lobby" := by
  intro session refusal turn
  have names : (sought turn.2).map (fun consulted => consulted.1.name) = ["survival", "hub"] := by
    decide +kernel
  refine ⟨Sample.met, names, fun once => ?_, by decide +kernel⟩
  have alone := congrArg (List.map Server.name) once
  rw [List.map_map] at alone
  exact absurd (names.symm.trans alone) (by decide)

end Session

end Ferry
