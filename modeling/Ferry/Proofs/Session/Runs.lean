import Ferry.Proofs.Session.WorkRules
import Ferry.Session.Run

/-!
# Runs of a session

A session moves when it takes in an event and when somebody queues a packet for its client.
What holds of a session when it starts and is kept by every move holds after every run.
While a session is playing, what a move does is the work of one event, and then, if that has
failed or the session wants to end, everything is closed down.
-/

namespace Ferry

/-- What moves a session. -/
inductive Move where
  | event (event : Event)
  /-- Somebody queues a packet for the client. -/
  | push (packet : Packet)

/-- The last packet that the client is sent when a session ends. -/
def Exit.last : Exit → Option Packet
  | .farewell reason => some (.disconnect reason.packet)
  | .clientGone => none

/-- The turn in which a session was closed down. -/
def SessionTurn.closedDown (turn : SessionTurn) (exit : Exit) : SessionTurn :=
  ⟨{ turn.session with
      stage := .over
      client := (turn.session.client.close exit.last).1
      backend := none
      pending := none
      connecting := none
      player := { turn.session.player with transfer := none, scene := Scene.empty } },
    turn.outputs ++ turn.session.pendingClosing ++ turn.session.backendClosing ++
      (turn.session.client.close exit.last).2⟩

/-- To shut down leads to where the session was closed down. -/
theorem Work.leads_shutdown {turn : SessionTurn} {exit : Exit}
    {done : Unit → SessionTurn → Prop} {failed : SessionError → SessionTurn → Prop} :
    (Work.shutdown exit).Leads turn done failed ↔ done () (turn.closedDown exit) := by
  simp only [Work.shutdown, Work.leads_bind, Work.leads_update, Work.leads_closePending,
    Work.leads_closeBackend, Work.leads_session, Work.leads_tell]
  cases exit <;> exact Iff.rfl

namespace Session

variable {session : Session} {event : Event}

/-- Takes in a move. -/
def move (session : Session) : Move → Session × List Output
  | .event event => session.handle event
  | .push packet => (session.push packet).2

/-- Takes in moves in a row. -/
def play (session : Session) : List Move → Session × List Output
  | [] => (session, [])
  | move :: moves =>
    let (session, outputs) := session.move move
    let (session, more) := session.play moves
    (session, outputs ++ more)

/-- What every move keeps, every run keeps. -/
theorem play_keeps (inv : Session → Prop)
    (step : ∀ session move, inv session → inv (session.move move).1)
    (moves : List Move) (holds : inv session) : inv (session.play moves).1 := by
  induction moves generalizing session with
  | nil => exact holds
  | cons move moves ih => exact ih (step session move holds)

/-- A run may be cut in two anywhere. -/
theorem play_append {first second : List Move} : session.play (first ++ second) =
    (((session.play first).1.play second).1,
      (session.play first).2 ++ ((session.play first).1.play second).2) := by
  induction first generalizing session with
  | nil => rfl
  | cons move moves ih => simp [play, ih]

/-- Whether a session has a property before a run and after each of its moves. -/
def throughout (session : Session) (has : Session → Bool) : List Move → Bool
  | [] => has session
  | move :: moves => has session && (session.move move).1.throughout has moves

/-- All that the moves of a run yield, one after the other. -/
def gathered {α : Type} (session : Session) (yields : Session → Move → List α) :
    List Move → List α
  | [] => []
  | move :: moves => yields session move ++ (session.move move).1.gathered yields moves

/-- What holds throughout a run holds before its first move, and throughout the rest. -/
theorem throughout_cons {has : Session → Bool} {move : Move} {moves : List Move} :
    session.throughout has (move :: moves) = true ↔
      has session = true ∧ (session.move move).1.throughout has moves = true := by
  simp [throughout]

/-- What holds throughout a run holds to begin with. -/
theorem throughout_head {has : Session → Bool} {moves : List Move}
    (all : session.throughout has moves = true) : has session = true := by
  cases moves with
  | nil => exact all
  | cons move moves => exact (throughout_cons.mp all).1

/-- What holds throughout a run holds at its end. -/
theorem throughout_last {has : Session → Bool} {moves : List Move}
    (all : session.throughout has moves = true) : has (session.play moves).1 = true := by
  induction moves generalizing session with
  | nil => exact all
  | cons move moves ih => exact ih (throughout_cons.mp all).2

/-- What a later part of a run yields is gathered later. -/
theorem gathered_append {α : Type} {yields : Session → Move → List α}
    {first second : List Move} : session.gathered yields (first ++ second) =
      session.gathered yields first ++ (session.play first).1.gathered yields second := by
  induction first generalizing session with
  | nil => rfl
  | cons move moves ih => simp [gathered, play, ih]

/-! ## Moves -/

/-- To shut down never fails. -/
theorem after_shutdown {exit : Exit} {turn : SessionTurn} :
    after (Work.shutdown exit) turn = (none, turn.closedDown exit) := by
  have leads : (Work.shutdown exit).Leads turn (fun _ after => after = turn.closedDown exit)
      fun _ _ => False := Work.leads_shutdown.mpr rfl
  unfold Work.Leads at leads
  unfold after
  cases ran : Work.shutdown exit turn with
  | ok value last => simp_all
  | error fault last => simp_all

/-- A playing session does the work on an event, and settles what that has come to. -/
theorem handle_of_playing (playing : session.stage = .playing)
    (here : ∀ link, event ≠ .severed link) :
    session.handle event =
      ((settle (after (Work.onEvent event) ⟨session, []⟩).1
          (after (Work.onEvent event) ⟨session, []⟩).2).session,
        (settle (after (Work.onEvent event) ⟨session, []⟩).1
          (after (Work.onEvent event) ⟨session, []⟩).2).outputs) := by
  unfold handle
  rw [playing]
  cases event with
  | severed link => exact absurd rfl (here link)
  | _ => rfl

/-- What a playing session comes to with an event: what the work on it has led to, or what
remains once that is closed down. -/
theorem handle_of_leads (outcome : SessionTurn → Prop)
    (playing : session.stage = .playing) (here : ∀ link, event ≠ .severed link)
    (leads : (Work.onEvent event).Leads ⟨session, []⟩
      (fun _ after => (after.session.exit = none → outcome after) ∧
        ∀ exit, after.session.exit = some exit → outcome (after.closedDown exit))
      fun fault after => outcome (after.closedDown (after.session.exitFor fault))) :
    outcome ⟨(session.handle event).1, (session.handle event).2⟩ := by
  rw [handle_of_playing playing here]
  unfold Work.Leads at leads
  unfold after
  cases ran : Work.onEvent event ⟨session, []⟩ with
  | ok value last =>
    rw [ran] at leads
    cases wish : last.session.exit with
    | none => simpa [settle, wish] using leads.1 wish
    | some exit => simpa [settle, wish, after_shutdown] using leads.2 exit wish
  | error fault last =>
    rw [ran] at leads
    simpa [settle, after_shutdown] using leads

/-- Until its first backend is there, a session waits for it. -/
theorem handle_of_joining {server : Server} (joining : session.stage = .joining server)
    (here : ∀ link, event ≠ .severed link) :
    session.handle event = (session, []) ∨ ∃ result, event = .connected 0 result ∧
      session.handle event =
        ((session.join server result).session, (session.join server result).outputs) := by
  unfold handle
  rw [joining]
  cases event with
  | severed link => exact absurd rfl (here link)
  | connected attempt result =>
    cases attempt with
    | zero => exact .inr ⟨result, rfl, rfl⟩
    | succ attempt => exact .inl rfl
  | _ => exact .inl rfl

/-- A session that is over takes nothing in any more. -/
theorem handle_of_over (ended : session.stage = .over) (here : ∀ link, event ≠ .severed link) :
    session.handle event = (session, []) := by
  unfold handle
  rw [ended]
  cases event with
  | severed link => exact absurd rfl (here link)
  | _ => rfl

end Session

/-! ## A small network -/

namespace Sample

/-- A server on this host, without items and blocks of its own. -/
def server (name : String) (port : UInt16) : Server :=
  ⟨name, Address.loopback port, ⟨0, ⟨[]⟩⟩, ⟨0, ⟨[]⟩⟩⟩

def lobby : Server := server "lobby" 1

def survival : Server := server "survival" 2

def hub : Server := server "hub" 3

/-- A connection whose frames are neither compressed nor encrypted. -/
def connection : Connection := ⟨FrameCodec.ofVersion .v712, false⟩

/-- A frame on such a connection. -/
def frame (packets : List Packet) : Bytes :=
  ((FrameCodec.ofVersion .v712).encode (Batch.made packets)).1

/-- A session that begins in the lobby, with the hub and the lobby to fall back on. -/
def session : Session :=
  (Session.start ⟨⟨1⟩, 712, ⟨712, []⟩, none⟩
    ⟨.default, .default, fun lost _ _ => Server.fallback? [hub, lobby] lost⟩ connection lobby).1

/-- The player is in the lobby, is to be on the survival server, and logs in there. -/
def moving : List Move :=
  [.event (.connected 0 (.ok (0, connection))), .event (.transfer survival),
    .event (.connected 1 (.ok (1, connection)))]

/-- The survival server while the player logs in there. -/
def pending : PendingBackend :=
  ⟨session.backendPeer 1 connection, Arrival.start (some lobby) survival .default⟩

/-- The survival server is logging the player in. -/
theorem met : (session.play moving).1.pending = some pending := rfl

/-- The survival server spawns the player. -/
def spawning : Move := .event (.pending (some (frame
  [.startGame ⟨1, 1, 0, Vector.zero, Rotation.zero, 0, 0, "", 0, []⟩])))

/-- The client says that it has arrived in a dimension. -/
def acknowledged : Bytes := frame [.playerAction ⟨1, PlayerAction.dimensionChangeSuccess, []⟩]

end Sample

end Ferry
