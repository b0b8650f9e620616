import Ferry.Session.Work

/-!
# Reasoning about work

`Work.Leads` says of a piece of work what holds when it is done and what holds when it has
failed. There is one rule for each way to put work together, so that a property of a whole
task is shown along the text of the task.
-/

namespace Ferry

/-- What is said on the link of the backend when it is given up. -/
def Session.backendClosing (session : Session) : List Output :=
  (session.backend.map fun backend => (backend.peer.close none).2).getD []

/-- What is said on the link of the backend that the player is moving to when it is given
up. -/
def Session.pendingClosing (session : Session) : List Output :=
  (session.pending.map fun pending => (pending.peer.close none).2).getD []

namespace Work

variable {α β : Type}

/-- Work that starts from a turn is done in a way that satisfies `done`, or fails in a way
that satisfies `failed`. -/
def Leads (work : Work α) (turn : SessionTurn) (done : α → SessionTurn → Prop)
    (failed : SessionError → SessionTurn → Prop) : Prop :=
  match work turn with
  | .ok value after => done value after
  | .error fault after => failed fault after

section Rules

variable {turn : SessionTurn} {done : α → SessionTurn → Prop}
  {failed : SessionError → SessionTurn → Prop}

/-- Work that does nothing is done. -/
@[simp] theorem leads_pure {value : α} :
    (pure value : Work α).Leads turn done failed ↔ done value turn := Iff.rfl

/-- Work that throws has failed. -/
@[simp] theorem leads_throw {fault : SessionError} :
    (throw fault : Work α).Leads turn done failed ↔ failed fault turn := Iff.rfl

/-- Work goes on with other work once it is done. -/
@[simp] theorem leads_bind {work : Work β} {next : β → Work α} :
    (work >>= next).Leads turn done failed ↔
      work.Leads turn (fun value after => (next value).Leads after done failed) failed := by
  cases ran : work turn <;> simp [Leads, bind, EStateM.bind, ran]

/-- What work leads to may be weakened on both ways out. -/
theorem Leads.mono {work : Work α} {done' : α → SessionTurn → Prop}
    {failed' : SessionError → SessionTurn → Prop} (leads : work.Leads turn done failed)
    (onDone : ∀ value after, done value after → done' value after)
    (onFailed : ∀ fault after, failed fault after → failed' fault after) :
    work.Leads turn done' failed' := by
  unfold Leads at *
  cases ran : work turn with
  | ok value after =>
    rw [ran] at leads
    exact onDone value after leads
  | error fault after =>
    rw [ran] at leads
    exact onFailed fault after leads

/-- Work satisfies together what it satisfies alone. -/
theorem Leads.and {work : Work α} {done' : α → SessionTurn → Prop}
    {failed' : SessionError → SessionTurn → Prop} (leads : work.Leads turn done failed)
    (others : work.Leads turn done' failed') :
    work.Leads turn (fun value after => done value after ∧ done' value after)
      fun fault after => failed fault after ∧ failed' fault after := by
  unfold Leads at *
  cases ran : work turn with
  | ok value after =>
    rw [ran] at leads others
    exact ⟨leads, others⟩
  | error fault after =>
    rw [ran] at leads others
    exact ⟨leads, others⟩

end Rules

section Steps

variable {turn : SessionTurn} {done : Unit → SessionTurn → Prop}
  {failed : SessionError → SessionTurn → Prop}

/-- To look at the session changes nothing. -/
@[simp] theorem leads_session {done : Session → SessionTurn → Prop} :
    Work.session.Leads turn done failed ↔ done turn.session turn := Iff.rfl

/-- To change the session leads to the changed session. -/
@[simp] theorem leads_update {change : Session → Session} :
    (update change).Leads turn done failed ↔
      done () { turn with session := change turn.session } := Iff.rfl

/-- To change the player leads to the changed player. -/
@[simp] theorem leads_updatePlayer {change : Player → Player} :
    (updatePlayer change).Leads turn done failed ↔
      done () { turn with
        session := { turn.session with player := change turn.session.player } } := Iff.rfl

/-- To tell something adds it to the outputs. -/
@[simp] theorem leads_tell {outputs : List Output} :
    (tell outputs).Leads turn done failed ↔
      done () { turn with outputs := turn.outputs ++ outputs } := Iff.rfl

/-- Going on or failing with a result. -/
@[simp] theorem leads_check {result : Except SessionError Unit} :
    (check result).Leads turn done failed ↔
      match result with
      | .ok () => done () turn
      | .error fault => failed fault turn := by
  cases result <;> exact Iff.rfl

/-- What is done to the client leads to what its peer has come to, or to its failure. -/
theorem leads_toClient {act : Peer → Except SessionError Unit × Peer × List Output} :
    (toClient act).Leads turn done failed ↔
      (check (act turn.session.client).1).Leads
        ⟨{ turn.session with client := (act turn.session.client).2.1 },
          turn.outputs ++ (act turn.session.client).2.2⟩ done failed := by
  simp [toClient]

/-- Nothing is done to a backend that is not there. -/
theorem leads_toBackend_of_none {act : Peer → Except SessionError Unit × Peer × List Output}
    (gone : turn.session.backend = none) :
    (toBackend act).Leads turn done failed ↔ done () turn := by
  simp [toBackend, gone]

/-- What is done to the backend leads to what its peer has come to. -/
theorem leads_toBackend {act : Peer → Except SessionError Unit × Peer × List Output}
    {backend : Backend} (on : turn.session.backend = some backend) :
    (toBackend act).Leads turn done failed ↔
      (check (tolerate (act backend.peer).1)).Leads
        ⟨{ turn.session with backend := some { backend with peer := (act backend.peer).2.1 } },
          turn.outputs ++ (act backend.peer).2.2⟩ done failed := by
  simp [toBackend, on]

/-- Nothing is done to a new backend that is not there. -/
theorem leads_toPending_of_none {act : Peer → Except SessionError Unit × Peer × List Output}
    (gone : turn.session.pending = none) :
    (toPending act).Leads turn done failed ↔ done () turn := by
  simp [toPending, gone]

/-- What is done to the new backend leads to what its peer has come to. -/
theorem leads_toPending {act : Peer → Except SessionError Unit × Peer × List Output}
    {pending : PendingBackend} (met : turn.session.pending = some pending) :
    (toPending act).Leads turn done failed ↔
      (check (tolerate (act pending.peer).1)).Leads
        ⟨{ turn.session with pending := some { pending with peer := (act pending.peer).2.1 } },
          turn.outputs ++ (act pending.peer).2.2⟩ done failed := by
  simp [toPending, met]

/-! ## Writing

Writing to a peer changes nothing else about the session, and it may fail.
-/

/-- What does not depend on the client's peer is kept. -/
theorem leads_toClient_keeps {act : Peer → Except SessionError Unit × Peer × List Output}
    (inv : Session → Prop) (kept : ∀ client, inv { turn.session with client := client }) :
    (toClient act).Leads turn (fun _ after => inv after.session) fun _ _ => True := by
  rw [leads_toClient, leads_check]
  cases (act turn.session.client).1 with
  | error fault => exact trivial
  | ok done => exact kept _

/-- What does not depend on the backend's peer is kept. -/
theorem leads_toBackend_keeps {act : Peer → Except SessionError Unit × Peer × List Output}
    (inv : Session → Prop) (holds : inv turn.session)
    (kept : ∀ backend, turn.session.backend = some backend → ∀ peer,
      inv { turn.session with backend := some { backend with peer := peer } }) :
    (toBackend act).Leads turn (fun _ after => inv after.session) fun _ _ => True := by
  cases on : turn.session.backend with
  | none => exact (leads_toBackend_of_none on).mpr holds
  | some backend =>
    rw [leads_toBackend on, leads_check]
    cases tolerate (act backend.peer).1 with
    | error fault => exact trivial
    | ok done => exact kept backend on _

/-- What does not depend on the new backend's peer is kept. -/
theorem leads_toPending_keeps {act : Peer → Except SessionError Unit × Peer × List Output}
    (inv : Session → Prop) (holds : inv turn.session)
    (kept : ∀ pending, turn.session.pending = some pending → ∀ peer,
      inv { turn.session with pending := some { pending with peer := peer } }) :
    (toPending act).Leads turn (fun _ after => inv after.session) fun _ _ => True := by
  cases met : turn.session.pending with
  | none => exact (leads_toPending_of_none met).mpr holds
  | some pending =>
    rw [leads_toPending met, leads_check]
    cases tolerate (act pending.peer).1 with
    | error fault => exact trivial
    | ok done => exact kept pending met _

/-! ## Giving up -/

/-- Giving up the backend leaves the session without one. -/
@[simp] theorem leads_closeBackend : closeBackend.Leads turn done failed ↔
    done () ⟨{ turn.session with backend := none },
      turn.outputs ++ turn.session.backendClosing⟩ := by
  obtain ⟨session, outputs⟩ := turn
  cases session with
  | mk _ _ _ _ backend => cases backend <;> simp [closeBackend, Session.backendClosing]

/-- Giving up the backend that the player is moving to leaves the session without one. -/
@[simp] theorem leads_closePending : closePending.Leads turn done failed ↔
    done () ⟨{ turn.session with pending := none },
      turn.outputs ++ turn.session.pendingClosing⟩ := by
  obtain ⟨session, outputs⟩ := turn
  cases session with
  | mk _ _ _ _ _ pending => cases pending <;> simp [closePending, Session.pendingClosing]

end Steps

end Work

end Ferry
