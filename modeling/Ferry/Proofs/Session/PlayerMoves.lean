import Ferry.Proofs.Session.WorkRules
import Ferry.Proofs.Session.LinkTraffic
import Ferry.Session.Routing

/-!
# What becomes of a player who is moved

One statement for each task of `Ferry.Session.Routing`: the turn that it leads to, or the
tasks that it comes down to. Nothing else about these tasks is used elsewhere.
-/

namespace Ferry

/-- The server that a player goes to in place of a lost one, if that is another one. -/
def Session.refuge (session : Session) (lost : Server) (reason : Farewell)
    (message : String) : Option Server :=
  (session.services.fallback lost reason message).filter fun server => !server.same lost

/-- The turn in which another server was looked for in place of a lost one: it is called, or
the session ends. -/
def SessionTurn.fallenBack (turn : SessionTurn) (lost : Server) (reason : Farewell)
    (message : String) : SessionTurn :=
  let session := turn.session
  let sought := Output.soughtFallback lost (session.services.fallback lost reason message)
  match session.refuge lost reason message with
  | some server =>
    ⟨{ session with
        pending := none
        connecting := some ⟨session.attempts, server, none⟩
        attempts := session.attempts + 1 },
      turn.outputs ++ [sought, .dialed session.attempts server]⟩
  | none => ⟨{ session with exit := some (.farewell reason) }, turn.outputs ++ [sought]⟩

/-- The turn in which a player was taken from all backends, and from its transfer. -/
def SessionTurn.adrift (turn : SessionTurn) : SessionTurn :=
  ⟨{ turn.session with
      backend := none
      pending := none
      connecting := none
      player := { turn.session.player with transfer := none } },
    turn.outputs ++ turn.session.pendingClosing ++ turn.session.backendClosing⟩

/-- The turn in which a transfer to a server was given up. -/
def SessionTurn.abandoned (turn : SessionTurn) (target : Server) (message : String) :
    SessionTurn :=
  turn.adrift.fallenBack target (.transferFailed target.name message) message

/-- A player who was taken from its transfer is in no other one. -/
@[simp] theorem SessionTurn.abandoned_transfer {turn : SessionTurn} {target : Server}
    {message : String} : (turn.abandoned target message).session.player.transfer = none := by
  unfold abandoned fallenBack
  dsimp only
  split <;> rfl

/-- Why nothing can be written to a peer that is not open. -/
def Peer.blockage (peer : Peer) : SessionError :=
  if peer.queue.dead then .overflow ⟨0, peer.queue.held.length⟩ else .connection .linkClosed

/-- The turn in which packets were written to the client ahead of its queue. -/
def SessionTurn.told (turn : SessionTurn) (packets : List Packet) : SessionTurn :=
  let (_, client, outputs) := turn.session.client.sendNow packets
  ⟨{ turn.session with client := client }, turn.outputs ++ outputs⟩

/-- Why a player leaves whose backend is gone, or has sent it away with a message. -/
def lossOf (server : Server) (message : Option String) : Farewell :=
  match message with
  | some message => .backendKicked server.name message
  | none => .backendClosed server.name

/-- The session once its client was sent away from the old backend, whose queue is stopped. -/
def Session.setOff (session : Session) (transfer : Transfer) : Session :=
  { session with
    player := { session.player with dimension := transfer.temporaryDimension }
    backend := session.backend.map fun backend =>
      { backend with peer := { backend.peer with queue := backend.peer.queue.deactivate } } }

/-- The session once the backend that the player was moving to has taken the place of the old
one. -/
def Session.promoted (session : Session) (pending : PendingBackend) (transfer : Transfer) :
    Session :=
  { session with
    player := { session.player with
      dimension := transfer.targetDimension
      transfer := some { transfer with waiting := transfer.waiting.release.2 } }
    pending := none
    backend := some ⟨pending.arrival.target, pending.peer⟩ }

namespace Work

variable {turn : SessionTurn} {done : Unit → SessionTurn → Prop}
  {failed : SessionError → SessionTurn → Prop}

/-- A player who is being transferred is not called away. -/
theorem leads_connectTo_of_moving {server : Server} {source : Option Server}
    (moving : turn.session.player.transfer.isSome = true) :
    (connectTo server source).Leads turn done failed ↔ done () turn := by
  obtain ⟨transfer, moving⟩ := Option.isSome_iff_exists.mp moving
  simp [connectTo, moving]

/-- A call takes the place of a server that the player was logging in to. -/
theorem leads_connectTo {server : Server} {source : Option Server}
    (free : turn.session.player.transfer = none) :
    (connectTo server source).Leads turn done failed ↔
      done () ⟨{ turn.session with
          pending := none
          connecting := some ⟨turn.session.attempts, server, source⟩
          attempts := turn.session.attempts + 1 },
        turn.outputs ++ [.dialed turn.session.attempts server]⟩ := by
  simp [connectTo, free]

/-- To leave is to want the session to end with a farewell. -/
@[simp] theorem leads_leave {reason : Farewell} : (leave reason).Leads turn done failed ↔
    done () { turn with session := { turn.session with exit := some (.farewell reason) } } :=
  Iff.rfl

/-- To fall back leads to where another server was looked for. -/
theorem leads_fallBack {lost : Server} {reason : Farewell} {message : String}
    (free : turn.session.player.transfer = none) :
    (fallBack lost reason message).Leads turn done failed ↔
      done () (turn.fallenBack lost reason message) := by
  unfold SessionTurn.fallenBack Session.refuge
  simp only [fallBack, leads_bind, leads_session, leads_tell]
  cases turn.session.services.fallback lost reason message with
  | none => simp
  | some server =>
    cases same : server.same lost with
    | true => simp [Option.filter, same]
    | false =>
      have called : (connectTo server none).Leads ⟨turn.session, turn.outputs ++
          [.soughtFallback lost (some server)]⟩ done failed ↔ _ := leads_connectTo free
      simpa [Option.filter, same] using called

/-- To give a transfer up leads to where it was given up. -/
theorem leads_abandonTransfer {target : Server} {message : String} :
    (abandonTransfer target message).Leads turn done failed ↔
      done () (turn.abandoned target message) := by
  simp only [abandonTransfer, leads_bind, leads_update, leads_closePending, leads_closeBackend]
  rw [leads_fallBack rfl]
  exact Iff.rfl

/-- A transfer that fails is given up, if the player was on its way. -/
theorem leads_failTransfer {message : String} : (failTransfer message).Leads turn done failed ↔
    match destination turn.session with
    | some target => done () (turn.abandoned target message)
    | none => done () turn := by
  simp only [failTransfer, leads_bind, leads_session]
  cases destination turn.session with
  | none => simp
  | some target => exact leads_abandonTransfer

/-! ## Losing a backend -/

/-- A backend that is gone cannot be lost. -/
theorem leads_loseBackend_of_none {message : Option String}
    (gone : turn.session.backend = none) :
    (loseBackend message).Leads turn done failed ↔ done () turn := by
  simp [loseBackend, gone]

/-- A player who has left the old backend has nowhere to stay once the new one is lost. -/
theorem leads_loseBackend_of_arriving {message : Option String} {transfer : Transfer}
    (on : turn.session.backend.isSome = true)
    (moving : turn.session.player.transfer = some transfer)
    (arriving : transfer.isLocked = false) :
    (loseBackend message).Leads turn done failed ↔
      done () (SessionTurn.abandoned
        ⟨{ turn.session with backend := none }, turn.outputs ++ turn.session.backendClosing⟩
        transfer.target (message.getD connectionClosed)) := by
  obtain ⟨backend, on⟩ := Option.isSome_iff_exists.mp on
  simp [loseBackend, on, moving, Option.filter, arriving, leads_abandonTransfer]

/-- A player who is on the way to another backend goes on without the old one. -/
theorem leads_loseBackend_of_moving {message : Option String}
    (on : turn.session.backend.isSome = true)
    (locked : ∀ transfer, turn.session.player.transfer = some transfer →
      transfer.isLocked = true)
    (moving : turn.session.player.transfer.isSome = true ∨ turn.session.pending.isSome = true ∨
      turn.session.connecting.isSome = true) :
    (loseBackend message).Leads turn done failed ↔
      done () ⟨{ turn.session with backend := none },
        turn.outputs ++ turn.session.backendClosing⟩ := by
  obtain ⟨backend, on⟩ := Option.isSome_iff_exists.mp on
  have stays : turn.session.player.transfer.filter (fun transfer => !transfer.isLocked) = none := by
    simpa [Option.filter_eq_none_iff] using locked
  have onTheWay : (turn.session.player.transfer.isSome || turn.session.pending.isSome ||
      turn.session.connecting.isSome) = true := by
    simpa [or_assoc] using moving
  simp only [loseBackend, leads_bind, leads_session, on, leads_closeBackend, stays, onTheWay,
    Bool.not_true, Bool.false_eq_true, if_false, leads_pure]

/-- A player who was on its way nowhere goes to another server. -/
theorem leads_loseBackend_of_settled {message : Option String} {backend : Backend}
    (on : turn.session.backend = some backend) (free : turn.session.player.transfer = none)
    (alone : turn.session.pending = none) (uncalled : turn.session.connecting = none) :
    (loseBackend message).Leads turn done failed ↔
      done () (SessionTurn.fallenBack
        ⟨{ turn.session with backend := none }, turn.outputs ++ turn.session.backendClosing⟩
        backend.server (lossOf backend.server message) (message.getD "")) := by
  have fallen : (fallBack backend.server (lossOf backend.server message)
      (message.getD "")).Leads ⟨{ turn.session with backend := none },
        turn.outputs ++ turn.session.backendClosing⟩ done failed ↔ _ := leads_fallBack free
  cases message <;>
    simpa [loseBackend, on, free, alone, uncalled, Option.filter, lossOf] using fallen

/-! ## The two phases of a transfer -/

/-- Packets for the client get through to one that is open, and end the session otherwise. -/
theorem leads_told {packets : List Packet} (filled : packets ≠ []) :
    (toClient fun peer => peer.sendNow packets).Leads turn done failed ↔
      if turn.session.client.isOpen then done () (turn.told packets)
      else failed turn.session.client.blockage (turn.told packets) := by
  rw [leads_toClient, leads_check, Peer.sendNow_result]
  cases dead : turn.session.client.queue.dead <;>
    cases severed : turn.session.client.connection.severed <;>
    simp [Peer.isOpen, Peer.blockage, dead, severed, filled, SessionTurn.told]

/-- A transfer starts with what sends the client away from the old backend. -/
theorem leads_startTransfer {teardown : List Packet} {transfer : Transfer}
    (moving : turn.session.player.transfer = some transfer) :
    (startTransfer teardown).Leads turn done failed ↔
      (toClient fun peer => peer.sendNow
          (teardown ++ turn.session.player.departurePackets transfer)).Leads
        ⟨turn.session.setOff transfer, turn.outputs ++ [.packsRebuilt]⟩ done failed := by
  simp only [startTransfer, leads_bind, leads_session, moving, leads_update, leads_tell,
    Session.setOff]

/-- Without a transfer there is none to start. -/
theorem leads_startTransfer_of_none {teardown : List Packet}
    (free : turn.session.player.transfer = none) :
    (startTransfer teardown).Leads turn done failed ↔ done () turn := by
  simp [startTransfer, free]

/-- The new backend takes the place of the old one, and then the client is sent on into the
new backend's dimension, ahead of all that has waited for it. -/
theorem leads_finishDeparture {transfer : Transfer} {pending : PendingBackend}
    (met : turn.session.pending = some pending) :
    (finishDeparture transfer).Leads turn done failed ↔
      (toClient fun peer => peer.sendNow (turn.session.player.arrivalPackets transfer)).Leads
        ⟨turn.session.promoted pending transfer, turn.outputs⟩
        (fun _ after => (toClient fun peer => peer.writeAll transfer.waiting.release.1).Leads
          after done failed) failed := by
  simp only [finishDeparture, leads_bind, leads_session, met, leads_update]
  exact Iff.rfl

/-- A transfer is over as soon as the client has arrived, and it comes to nothing if the new
backend is gone by then. -/
theorem leads_finishArrival {transfer : Transfer} :
    (finishArrival transfer).Leads turn done failed ↔
      (toClient fun peer => peer.sendNow Player.completionPackets).Leads
        ⟨{ turn.session with player := { turn.session.player with transfer := none } },
          turn.outputs⟩
        (fun _ after =>
          if after.session.backend.any fun backend => !backend.peer.connection.severed then
            (toBackend fun peer =>
              peer.sendNow [after.session.player.initializedPacket]).Leads after
              (fun _ last => done () { last with outputs := last.outputs ++
                (transfer.source.toList.map fun source =>
                  .transferred source transfer.target) })
              failed
          else done () (after.abandoned transfer.target connectionClosed)) failed := by
  simp only [finishArrival, leads_bind, leads_updatePlayer, leads_session]
  refine iff_of_eq (congrArg (fun next => Leads _ _ next failed) ?_)
  ext _ after
  cases on : after.session.backend with
  | none => simp [leads_abandonTransfer]
  | some backend =>
    cases whole : backend.peer.connection.severed <;>
      simp [Option.filter, whole, leads_abandonTransfer]

end Work

end Ferry
