import Ferry.Session.Peer

/-!
# Work on a session

Work changes a session, adds to its outputs, and may fail. What was done before a failure
stays done. A backend that cannot be written to is no failure: its link will report that it
is closed. Only a queue that overflows is.
-/

namespace Ferry

/-- A session and what it has put out so far. -/
structure SessionTurn where
  session : Session
  outputs : List Output

/-- Work on a session. -/
abbrev Work := EStateM SessionError SessionTurn

namespace Work

/-- The session as it stands. -/
def session : Work Session := do
  let turn ← get
  pure turn.session

/-- Changes the session. -/
def update (change : Session → Session) : Work Unit :=
  modify fun turn => { turn with session := change turn.session }

/-- Changes what is known about the player. -/
def updatePlayer (change : Player → Player) : Work Unit :=
  update fun session => { session with player := change session.player }

/-- Adds outputs. -/
def tell (outputs : List Output) : Work Unit :=
  modify fun turn => { turn with outputs := turn.outputs ++ outputs }

/-- What becomes of a backend that cannot be written to. -/
def tolerate : Except SessionError Unit → Except SessionError Unit
  | .error (.connection _) => .ok ()
  | other => other

/-- Goes on, or fails. -/
def check : Except SessionError Unit → Work Unit
  | .ok () => pure ()
  | .error fault => throw fault

/-- Writes to the client. -/
def toClient (act : Peer → Except SessionError Unit × Peer × List Output) : Work Unit := do
  let session ← Work.session
  let (result, peer, outputs) := act session.client
  update fun session => { session with client := peer }
  tell outputs
  check result

/-- Writes to the backend, if there is one. -/
def toBackend (act : Peer → Except SessionError Unit × Peer × List Output) : Work Unit := do
  let session ← Work.session
  match session.backend with
  | none => pure ()
  | some backend =>
    let (result, peer, outputs) := act backend.peer
    update fun session => { session with backend := some { backend with peer := peer } }
    tell outputs
    check (tolerate result)

/-- Writes to the backend that the player is moving to, if there is one. -/
def toPending (act : Peer → Except SessionError Unit × Peer × List Output) : Work Unit := do
  let session ← Work.session
  match session.pending with
  | none => pure ()
  | some pending =>
    let (result, peer, outputs) := act pending.peer
    update fun session => { session with pending := some { pending with peer := peer } }
    tell outputs
    check (tolerate result)

/-- Gives the backend up, if there is one. -/
def closeBackend : Work Unit := do
  let session ← Work.session
  match session.backend with
  | none => pure ()
  | some backend =>
    update fun session => { session with backend := none }
    tell (backend.peer.close none).2

/-- Gives the backend up that the player is moving to, if there is one. -/
def closePending : Work Unit := do
  let session ← Work.session
  match session.pending with
  | none => pure ()
  | some pending =>
    update fun session => { session with pending := none }
    tell (pending.peer.close none).2

end Work

end Ferry
