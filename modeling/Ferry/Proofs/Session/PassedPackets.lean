import Ferry.Proofs.Transfer.WaitingRelease
import Ferry.Proofs.Session.QueueInvariant

/-!
# What the events of a session pass on

For each event, the packets that it brings to the client and those that it brings to a backend:
all else that is written the proxy has made itself. While the client is locked nothing is passed
on, until the client acknowledges that it has left the old backend; then it hears all that has
waited for it.
-/

namespace Ferry

namespace Work

variable {turn : SessionTurn}

/-! ## Actions -/

/-- An acknowledgment passes nothing on while the client is free. -/
theorem quiet_acknowledge (tidy : turn.session.Tidy) (course : turn.session.Course)
    (free : turn.session.player.isLocked = false) : acknowledge.Quiet turn := by
  have idle (still : turn.session.player.transfer = none) : acknowledge.Quiet turn := by
    simpa [Quiet, acknowledge, still] using SessionTurn.Proceeds.refl tidy
  cases course with
  | settled _ _ _ still => exact idle still
  | dialing _ _ still => exact idle still
  | loggingIn _ _ _ still => exact idle still
  | departing met started uncalled moving locked aimed =>
    simp [Player.isLocked, Transfer.isLocked, moving, locked] at free
  | arriving on alone uncalled moving left there =>
    simp only [Quiet, acknowledge, leads_bind, leads_session, moving, Option.map_some,
      Transfer.acknowledge, left]
    exact quiet_finishArrival tidy free

/-- What the frames of a backend or a free client ask for passes nothing on. -/
theorem quiet_act {source : BatchSource} {action : Action} (tidy : turn.session.Tidy)
    (course : turn.session.Course) (free : turn.session.player.isLocked = false)
    (asked : action = .dimensionChanged ∨ ∃ message, action = .kicked message) :
    (act source action).Quiet turn := by
  rcases asked with rfl | ⟨message, rfl⟩
  · exact quiet_acknowledge tidy course free
  · exact quiet_loseBackend tidy course

/-- What the client and its backend ask for passes nothing on while the client is free. -/
theorem quiet_actAll {source : BatchSource} {actions : List Action} (tidy : turn.session.Tidy)
    (going : turn.session.exit = none) (underway : turn.session.Underway)
    (free : turn.session.player.isLocked = false)
    (asked : ∀ action ∈ actions, action = .dimensionChanged ∨ ∃ message, action = .kicked message) :
    (actAll source actions).Quiet turn := by
  have all : (actAll source actions).Leads turn
      (fun _ after => turn.Proceeds after ∧ after.session.Underway)
      fun _ after => turn.Proceeds after := by
    refine leads_actAll (fun after => turn.Proceeds after ∧ after.session.Underway)
      ?_ going ⟨.refl tidy, underway⟩
    rintro action mem here goes ⟨proceeds, kept⟩
    have quiet : (act source action).Quiet here :=
      quiet_act proceeds.passes.tidy (kept.2 goes) (proceeds.keeps.free free) (asked action mem)
    refine ((quiet.from proceeds).and (staysUnderway_act kept (kept.2 goes))).mono ?_ ?_
    · intro _ _ both
      exact both
    · intro _ _ both
      exact both.1
  exact all.mono (fun _ _ both => both.1) fun _ _ fault => fault

/-- What a new backend can cause leaves the transfer as it is, or ends it. -/
theorem transfer_act_pending {action : Action} (own : action.isOfArrival = true) :
    (act .pending action).Leads turn
      (fun _ after => after.session.player.transfer = none ∨
        after.session.player.transfer = turn.session.player.transfer) fun _ _ => True := by
  cases action with
  | reply packet =>
    simp only [act, reply]
    exact leads_toPending_keeps (fun session => session.player.transfer = none ∨
      session.player.transfer = turn.session.player.transfer) (.inr rfl) fun _ _ _ => .inr rfl
  | transferStarted teardown =>
    cases moving : turn.session.player.transfer with
    | none => exact (leads_startTransfer_of_none moving).mpr (.inl moving)
    | some transfer =>
      exact (leads_startTransfer moving).mpr (leads_toClient_keeps
        (fun session => session.player.transfer = none ∨
          session.player.transfer = some transfer) fun _ => .inr moving)
  | transferFailed message =>
    refine leads_failTransfer.mpr ?_
    cases destination turn.session with
    | none => exact .inr rfl
    | some target => exact .inl SessionTurn.abandoned_transfer
  | dimensionChanged => cases own
  | kicked message => cases own

/-- A transfer that has ended does not come back. -/
theorem ended_actAll_pending {actions : List Action} (going : turn.session.exit = none)
    (ended : turn.session.player.transfer = none)
    (asked : ∀ action ∈ actions, action.isOfArrival = true) :
    (actAll .pending actions).Leads turn
      (fun _ after => after.session.player.transfer = none) fun _ _ => True := by
  refine leads_actAll (fun after => after.session.player.transfer = none) ?_ going ended
  intro action mem here _ finished
  refine (transfer_act_pending (asked action mem)).mono ?_ fun _ _ _ => trivial
  rintro _ after (gone | same)
  · exact gone
  · exact same.trans finished

/-- What a new backend asks for passes nothing on. -/
theorem quiet_act_pending {action : Action} (tidy : turn.session.Tidy)
    (locked : ∀ transfer, turn.session.player.transfer = some transfer →
      transfer.isLocked = true)
    (own : action.isOfArrival = true) : (act .pending action).Quiet turn := by
  cases action with
  | reply packet =>
    simp only [act]
    exact quiet_reply tidy
  | transferStarted teardown => exact quiet_startTransfer tidy locked
  | transferFailed message => exact quiet_failTransfer tidy
  | dimensionChanged => cases own
  | kicked message => cases own

/-- What a new backend asks for passes nothing on while the client is on its way out. -/
theorem quiet_actAll_pending {actions : List Action} (tidy : turn.session.Tidy)
    (going : turn.session.exit = none)
    (locked : ∀ transfer, turn.session.player.transfer = some transfer →
      transfer.isLocked = true)
    (asked : ∀ action ∈ actions, action.isOfArrival = true) :
    (actAll .pending actions).Quiet turn := by
  have all : (actAll .pending actions).Leads turn
      (fun _ after => turn.Proceeds after ∧ ∀ transfer,
        after.session.player.transfer = some transfer → transfer.isLocked = true)
      fun _ after => turn.Proceeds after := by
    refine leads_actAll (fun after => turn.Proceeds after ∧ ∀ transfer,
        after.session.player.transfer = some transfer → transfer.isLocked = true)
      ?_ going ⟨.refl tidy, locked⟩
    rintro action mem here goes ⟨proceeds, stays⟩
    have own := asked action mem
    have quiet := quiet_act_pending proceeds.passes.tidy stays own
    refine ((quiet.from proceeds).and (transfer_act_pending own)).mono ?_ ?_
    · rintro _ after ⟨next, ended | same⟩
      · exact ⟨next, by simp [ended]⟩
      · exact ⟨next, by rw [same]; exact stays⟩
    · intro _ _ both
      exact both.1
  exact all.mono (fun _ _ both => both.1) fun _ _ fault => fault

end Work

/-! ## Leaving the old backend -/

/-- All that has waited is released, and in order. -/
@[simp] theorem Waiting.release_packets (waiting : Waiting) :
    waiting.release.1.flatMap Batch.packets = waiting.packets := by
  simp only [release, List.flatMap_map, ofPackets_packets]
  rw [List.flatMap_id', pieces_flatten]

/-- What is released waits its turn in the queue. -/
theorem Waiting.release_queued (waiting : Waiting) :
    ∀ batch ∈ waiting.release.1, batch.skipQueue = false := by
  simp [release]

namespace Session

/-- Some packets, if the client is open. -/
def ifOpen (session : Session) (packets : List BatchPacket) : List BatchPacket :=
  if session.client.isOpen then packets else []

/-- Some packets, if the backend is there and open. -/
def ifServed (session : Session) (packets : List BatchPacket) : List BatchPacket :=
  if session.backend.any fun backend => backend.peer.isOpen then packets else []

/-- No packets are none, whether the client is open or not. -/
@[simp] theorem ifOpen_nil {session : Session} : session.ifOpen [] = [] := by simp [ifOpen]

/-- No packets are none, whether there is a backend or not. -/
@[simp] theorem ifServed_nil {session : Session} : session.ifServed [] = [] := by simp [ifServed]

end Session

/-- From one turn to another the client was told some packets of the proxy, and nothing else. -/
structure SessionTurn.Tells (turn : SessionTurn) (packets : List Packet) (after : SessionTurn) :
    Prop where
  passes : turn.Passes [] [] after
  heard : ∃ more, after.outputs = turn.outputs ++ more ∧
    heardOn LinkId.isClient more = packets.map BatchPacket.made

/-- From one turn to another the client was first told some packets of the proxy, and then some
packets were passed on to it. -/
def SessionTurn.Delivers (turn : SessionTurn) (packets : List Packet)
    (inward : List BatchPacket) (after : SessionTurn) : Prop :=
  ∃ told, turn.Tells packets told ∧ told.Passes inward [] after

/-- What is delivered to the client is passed on. -/
theorem SessionTurn.Delivers.passes {turn after : SessionTurn} {packets : List Packet}
    {inward : List BatchPacket} (delivers : turn.Delivers packets inward after) :
    turn.Passes inward [] after := by
  obtain ⟨told, tells, passes⟩ := delivers
  exact tells.passes.trans passes

/-- More may happen after a delivery, if it passes nothing on. -/
theorem SessionTurn.Delivers.then {turn middle after : SessionTurn} {packets : List Packet}
    {inward : List BatchPacket} (delivers : turn.Delivers packets inward middle)
    (next : middle.Passes [] [] after) : turn.Delivers packets inward after := by
  obtain ⟨told, tells, passes⟩ := delivers
  have whole := passes.trans next
  rw [List.append_nil] at whole
  exact ⟨told, tells, whole⟩

/-- From one turn to another packets were delivered to the client, if it was open. -/
def SessionTurn.HandsOver (turn : SessionTurn) (packets : List Packet)
    (inward : List BatchPacket) (after : SessionTurn) : Prop :=
  if turn.session.client.isOpen then turn.Delivers packets inward after
  else turn.Passes [] [] after

/-- What is delivered to an open client is passed on, and to another nothing. -/
theorem SessionTurn.HandsOver.passes {turn after : SessionTurn} {packets : List Packet}
    {inward : List BatchPacket} (handsOver : turn.HandsOver packets inward after) :
    turn.Passes (turn.session.ifOpen inward) [] after := by
  unfold HandsOver at handsOver
  unfold Session.ifOpen
  split at handsOver
  next opened =>
    rw [if_pos opened]
    exact handsOver.passes
  next closed =>
    rw [if_neg closed]
    exact handsOver

/-- What the two sides hear when packets are delivered to the client. -/
theorem SessionTurn.HandsOver.heard {turn after : SessionTurn} {packets : List Packet}
    {inward : List BatchPacket} (handsOver : turn.HandsOver packets inward after) :
    ∃ more stream, after.outputs = turn.outputs ++ more ∧
      heardOn LinkId.isClient more =
        turn.session.ifOpen (packets.map BatchPacket.made) ++ stream ∧
      Amid (turn.session.ifOpen inward) stream ∧ AllMade (heardOn LinkId.isBackend more) := by
  unfold HandsOver at handsOver
  unfold Session.ifOpen
  split at handsOver
  next opened =>
    obtain ⟨told, ⟨passes, more, grown, heard⟩, next⟩ := handsOver
    obtain ⟨same, grown', -, silent⟩ := passes.adds
    obtain ⟨rest, last, stream, further⟩ := next.adds
    cases List.append_cancel_left (grown.symm.trans grown')
    rw [if_pos opened, if_pos opened]
    refine ⟨more ++ rest, heardOn LinkId.isClient rest, ?_, ?_, stream, ?_⟩
    · rw [last, grown, List.append_assoc]
    · rw [heardOn_append, heard]
    · rw [heardOn_append]
      exact allMade_append.mpr ⟨amid_nil.mp silent, amid_nil.mp further⟩
  next closed =>
    obtain ⟨more, grown, inside, outside⟩ := handsOver.adds
    rw [if_neg closed, if_neg closed]
    exact ⟨more, heardOn LinkId.isClient more, grown, rfl, inside, amid_nil.mp outside⟩

/-- More may happen after packets are handed over, if it passes nothing on. -/
theorem SessionTurn.HandsOver.then {turn middle after : SessionTurn} {packets : List Packet}
    {inward : List BatchPacket} (handsOver : turn.HandsOver packets inward middle)
    (next : middle.Passes [] [] after) : turn.HandsOver packets inward after := by
  unfold HandsOver at *
  split at handsOver
  next opened =>
    rw [if_pos opened]
    exact handsOver.then next
  next closed =>
    rw [if_neg closed]
    exact handsOver.trans next

/-- What was delivered counts from an earlier turn since when nothing was written. -/
theorem SessionTurn.Passes.delivers {turn middle after : SessionTurn} {packets : List Packet}
    {inward : List BatchPacket} (here : turn.Passes [] [] middle)
    (unheard : ∃ more, middle.outputs = turn.outputs ++ more ∧ heardOn LinkId.isClient more = [])
    (delivers : middle.Delivers packets inward after) : turn.Delivers packets inward after := by
  obtain ⟨told, ⟨passes, heard⟩, next⟩ := delivers
  obtain ⟨more, grown, silent⟩ := unheard
  obtain ⟨rest, last, packets⟩ := heard
  refine ⟨told, ⟨here.trans passes, more ++ rest, ?_, ?_⟩, next⟩
  · rw [last, grown, List.append_assoc]
  · rw [heardOn_append, silent, packets, List.nil_append]

/-- Something may happen before, if the client does not hear it. -/
theorem SessionTurn.Passes.handsOver {turn middle after : SessionTurn} {packets : List Packet}
    {inward : List BatchPacket} (here : turn.Passes [] [] middle)
    (unheard : ∃ more, middle.outputs = turn.outputs ++ more ∧ heardOn LinkId.isClient more = [])
    (alive : middle.session.client.isOpen = turn.session.client.isOpen)
    (handsOver : middle.HandsOver packets inward after) : turn.HandsOver packets inward after := by
  unfold HandsOver at *
  rw [alive] at handsOver
  split at handsOver
  next opened =>
    rw [if_pos opened]
    exact here.delivers unheard handsOver
  next closed =>
    rw [if_neg closed]
    exact here.trans handsOver

namespace Work

variable {turn : SessionTurn}

/-- What an open client is told it hears. -/
theorem told_tells {packets : List Packet} (tidy : turn.session.Tidy)
    (opened : turn.session.client.isOpen = true) : turn.Tells packets (turn.told packets) := by
  refine ⟨told_passes tidy, _, rfl, ?_⟩
  have heard := @Peer.heardOn_sendNow turn.session.client LinkId.isClient packets
  rw [tidy.client.isClient, opened] at heard
  exact heard

/-- Batches that are written to the client reach it behind what is queued for it. -/
theorem passes_writeAll {batches : List Batch} (tidy : turn.session.Tidy)
    (opened : turn.session.client.isOpen = true)
    (queued : ∀ batch ∈ batches, batch.skipQueue = false) :
    (toClient fun peer => peer.writeAll batches).Leads turn
      (fun _ after => turn.Passes (batches.flatMap Batch.packets) [] after ∧
        ∃ client, after.session = { turn.session with client := client })
      fun _ _ => False := by
  have faces := tidy.client
  obtain ⟨result, -, heard⟩ := @Peer.writeAll_of_open turn.session.client batches
    LinkId.isClient opened faces.active queued
  obtain ⟨-, -, unheard⟩ := @Peer.writeAll_of_open turn.session.client batches
    LinkId.isBackend opened faces.active queued
  have away : turn.session.client.link.isBackend = false := by
    simp [LinkId.isBackend, faces.isClient]
  rw [faces.isClient, if_pos rfl] at heard
  rw [away, if_neg (by decide)] at unheard
  rw [leads_toClient, leads_check, result]
  refine ⟨⟨⟨faces.writeAll queued, tidy.backend, tidy.active, tidy.pending⟩, fun _ => opened,
    (turn.session.client.writeAll batches).2.2, rfl, ?_, ?_⟩, _, rfl⟩
  · rw [heard]
    have own : AllMade (if batches.isEmpty then [] else turn.session.client.queue.packets) := by
      split
      · exact allMade_nil
      · exact faces.made
    exact (amid_nil.mpr own).append (.self _)
  · rw [unheard]
    exact .nil

/-- The client is sent on to the new backend, and then hears all that has waited for it. -/
theorem delivers_finishDeparture {transfer : Transfer} {pending : PendingBackend}
    (tidy : turn.session.Tidy) (met : turn.session.pending = some pending)
    (left : transfer.isLocked = false) :
    (finishDeparture transfer).Leads turn
      (fun _ after => turn.session.client.isOpen = true ∧
        turn.Delivers (turn.session.player.arrivalPackets transfer) transfer.waiting.packets after ∧
        after.session.StaysAt pending.peer.link)
      fun _ after => turn.session.client.isOpen = false ∧ turn.Passes [] [] after := by
  have promoted : turn.Passes [] [] ⟨turn.session.promoted pending transfer, turn.outputs⟩ :=
    .silent (tidy.promoted met) rfl (List.append_nil _).symm fun _ => rfl
  refine (leads_finishDeparture met).mpr ((leads_told (by simp [Player.arrivalPackets])).mpr ?_)
  cases opened : turn.session.client.isOpen with
  | false =>
    have closed : ¬(turn.session.promoted pending transfer).client.isOpen = true := by
      simp [Session.promoted, opened]
    rw [if_neg closed]
    exact ⟨rfl, promoted.trans (told_passes promoted.tidy)⟩
  | true =>
    have stays : (turn.session.promoted pending transfer).client.isOpen = true := opened
    have tells : SessionTurn.Tells _ (turn.session.player.arrivalPackets transfer) _ :=
      told_tells promoted.tidy stays
    rw [if_pos stays]
    refine (passes_writeAll tells.passes.tidy ?_ transfer.waiting.release_queued).mono ?_ ?_
    · simpa [SessionTurn.told, Peer.isOpen] using stays
    · rintro _ after ⟨released, client, same⟩
      rw [Waiting.release_packets] at released
      refine ⟨rfl, promoted.delivers ⟨[], (List.append_nil _).symm, rfl⟩ ⟨_, tells, released⟩, ?_⟩
      rw [same]
      refine ⟨left, ?_⟩
      rintro _ ⟨⟩
      rfl
    · intro _ _ fault
      exact fault.elim

/-- An acknowledgment of a client that is on its way out of the old backend. -/
theorem delivers_acknowledge {transfer : Transfer} {pending : PendingBackend}
    (tidy : turn.session.Tidy) (met : turn.session.pending = some pending)
    (moving : turn.session.player.transfer = some transfer)
    (locked : transfer.phase = .departing) :
    acknowledge.Leads turn
      (fun _ after => turn.session.client.isOpen = true ∧
        turn.Delivers (turn.session.player.arrivalPackets transfer) transfer.waiting.packets after ∧
        after.session.StaysAt pending.peer.link)
      fun _ after => turn.session.client.isOpen = false ∧ turn.Passes [] [] after := by
  simp only [acknowledge, leads_bind, leads_session, moving, Option.map_some,
    Transfer.acknowledge, locked]
  exact delivers_finishDeparture tidy met rfl

/-- What comes of acknowledgments of a client that is on its way out: with the first of them it
leaves, and the others pass nothing on. -/
theorem handsOver_actAll {transfer : Transfer} {pending : PendingBackend}
    {actions : List Action} (tidy : turn.session.Tidy) (going : turn.session.exit = none)
    (underway : turn.session.Underway) (met : turn.session.pending = some pending)
    (moving : turn.session.player.transfer = some transfer)
    (locked : transfer.phase = .departing) (acted : actions ≠ [])
    (asked : ∀ action ∈ actions, action = .dimensionChanged) :
    (actAll .client actions).Leads turn
      (fun _ after => turn.HandsOver (turn.session.player.arrivalPackets transfer)
          transfer.waiting.packets after ∧ after.session.StaysAt pending.peer.link)
      fun _ after => turn.HandsOver (turn.session.player.arrivalPackets transfer)
        transfer.waiting.packets after := by
  cases actions with
  | nil => exact absurd rfl acted
  | cons action rest =>
    cases asked action List.mem_cons_self
    have first := (delivers_acknowledge tidy met moving locked).and
      (staysUnderway_acknowledge underway (underway.2 going))
    refine leads_actAll_cons.mpr (first.mono ?_ ?_)
    · rintro _ after ⟨⟨opened, delivers, stays⟩, kept⟩
      have here : turn.HandsOver (turn.session.player.arrivalPackets transfer)
          transfer.waiting.packets after := by
        unfold SessionTurn.HandsOver
        rw [if_pos opened]
        exact delivers
      split
      next goes =>
        refine
          (quiet_actAll delivers.passes.tidy (by simpa using goes) kept stays.free ?_).mono ?_ ?_
        · intro action mem
          exact .inl (asked action (List.mem_cons_of_mem _ mem))
        · intro _ last proceeds
          exact ⟨here.then proceeds.passes, proceeds.keeps.staysAt stays⟩
        · intro _ last proceeds
          exact here.then proceeds.passes
      next => exact ⟨here, stays⟩
    · rintro _ after ⟨⟨closed, passes⟩, -⟩
      unfold SessionTurn.HandsOver
      rw [if_neg (by simp [closed])]
      exact passes

end Work

/-! ## Passing batches on -/

/-- From one turn to another some packets were passed on. A session whose client was not locked
has stayed with its backend. -/
structure SessionTurn.Accounted (turn : SessionTurn) (inward outward : List BatchPacket)
    (after : SessionTurn) : Prop where
  passes : turn.Passes inward outward after
  home : turn.session.player.isLocked = false → ∀ link, turn.session.At link →
    after.session.At link

namespace SessionTurn

variable {turn middle after : SessionTurn} {inward outward : List BatchPacket}

/-- Where nothing is passed on, that is accounted for. -/
theorem Proceeds.accounted (proceeds : turn.Proceeds after) : turn.Accounted [] [] after :=
  ⟨proceeds.passes, fun _ => proceeds.keeps.home⟩

/-- Something quiet may happen before packets are passed on. -/
theorem Proceeds.andThen (here : turn.Proceeds middle)
    (next : middle.Accounted inward outward after) : turn.Accounted inward outward after :=
  ⟨here.passes.trans next.passes,
    fun free link stays => next.home (here.keeps.free free) link (here.keeps.home link stays)⟩

/-- Something quiet may happen after packets are passed on. -/
theorem Accounted.andThen (here : turn.Accounted inward outward middle)
    (next : middle.Proceeds after) : turn.Accounted inward outward after := by
  have whole := here.passes.trans next.passes
  rw [List.append_nil, List.append_nil] at whole
  exact ⟨whole, fun free link stays => next.keeps.home link (here.home free link stays)⟩

end SessionTurn

namespace Work

variable {turn : SessionTurn}

/-- What work passes on, whether it is done or fails. -/
abbrev Accounts (work : Work Unit) (turn : SessionTurn) (inward outward : List BatchPacket) :
    Prop :=
  work.Leads turn (fun _ after => turn.Accounted inward outward after)
    fun _ after => turn.Accounted inward outward after

/-- Quiet work passes nothing on. -/
theorem Quiet.accounts {work : Work Unit} (quiet : work.Quiet turn) :
    work.Accounts turn [] [] :=
  quiet.mono (fun _ _ here => here.accounted) fun _ _ here => here.accounted

/-- What work passes on that leaves the client free. -/
abbrev AccountsFree (work : Work Unit) (turn : SessionTurn) (inward outward : List BatchPacket) :
    Prop :=
  work.Leads turn
    (fun _ after => turn.Accounted inward outward after ∧ after.session.player.isLocked = false)
    fun _ after => turn.Accounted inward outward after

/-- Work that leaves the client free passes on no less. -/
theorem AccountsFree.accounts {work : Work Unit} {inward outward : List BatchPacket}
    (accounts : work.AccountsFree turn inward outward) : work.Accounts turn inward outward :=
  accounts.mono (fun _ _ here => here.1) fun _ _ here => here

/-- Quiet work leaves a free client free. -/
theorem Quiet.accountsFree {work : Work Unit} (quiet : work.Quiet turn)
    (free : turn.session.player.isLocked = false) : work.AccountsFree turn [] [] :=
  quiet.mono (fun _ _ here => ⟨here.accounted, here.keeps.free free⟩) fun _ _ here => here.accounted

/-- What is passed on counts from an earlier turn since when nothing was passed on. -/
theorem Accounts.from {work : Work Unit} {middle : SessionTurn} {inward outward : List BatchPacket}
    (accounts : work.Accounts middle inward outward) (here : turn.Proceeds middle) :
    work.Leads middle (fun _ after => turn.Accounted inward outward after)
      fun _ after => turn.Accounted inward outward after :=
  accounts.mono (fun _ _ next => here.andThen next) fun _ _ next => here.andThen next

/-- A batch that is written to the backend reaches it if it is there and open. -/
theorem passes_toBackend {batch : Batch} (tidy : turn.session.Tidy)
    (free : turn.session.player.isLocked = false) (queued : batch.skipQueue = false) :
    (toBackend fun peer => peer.write batch).Accounts turn []
      (turn.session.ifServed batch.packets) := by
  cases on : turn.session.backend with
  | none =>
    have nothing : turn.session.ifServed batch.packets = [] := by simp [Session.ifServed, on]
    rw [nothing]
    exact (leads_toBackend_of_none on).mpr (SessionTurn.Proceeds.refl tidy).accounted
  | some backend =>
    have faces := tidy.backend backend on
    have active := tidy.active backend on free
    obtain ⟨still, kept⟩ := faces.write queued active
    have accounted : turn.Accounted [] (turn.session.ifServed batch.packets)
        ⟨{ turn.session with
            backend := some { backend with peer := (backend.peer.write batch).2.1 } },
          turn.outputs ++ (backend.peer.write batch).2.2⟩ := by
      refine ⟨⟨⟨tidy.client, ?_, ?_, tidy.pending⟩, id, (backend.peer.write batch).2.2, rfl,
        ?_, ?_⟩, fun _ link here => ?_⟩
      · rintro _ ⟨⟩
        exact still
      · rintro _ ⟨⟩ -
        exact kept
      · rw [Peer.heardOn_write (.inr active), faces.isClient]
        exact .nil
      · rw [Peer.heardOn_write (.inr active), faces.isBackend, queued, faces.empty]
        simpa [Session.ifServed, on] using Amid.self _
      · rintro _ ⟨⟩
        exact Peer.write_link.trans (here backend on)
    rw [Accounts, leads_toBackend on, leads_check]
    cases tolerate (backend.peer.write batch).1 with
    | error fault => exact accounted
    | ok done => exact accounted

/-- A batch that is written to the client reaches it, behind what is queued for it, if it is
open. -/
theorem passes_toClient {batch : Batch} (tidy : turn.session.Tidy)
    (queued : batch.skipQueue = false) :
    (toClient fun peer => peer.write batch).Accounts turn
      (turn.session.ifOpen batch.packets) [] := by
  have faces := tidy.client
  have away : turn.session.client.link.isBackend = false := by
    simp [LinkId.isBackend, faces.isClient]
  have alive : (turn.session.client.write batch).2.1.isOpen = true →
      turn.session.client.isOpen = true := by
    have queue := Peer.write_queue_cases queued faces.active
    unfold Peer.isOpen
    rw [Peer.write_severed]
    rcases queue with same | emptied
    · rw [same]
      exact id
    · rw [emptied]
      exact id
  have accounted : turn.Accounted (turn.session.ifOpen batch.packets) []
      ⟨{ turn.session with client := (turn.session.client.write batch).2.1 },
        turn.outputs ++ (turn.session.client.write batch).2.2⟩ := by
    refine ⟨⟨⟨faces.write queued, tidy.backend, tidy.active, tidy.pending⟩, alive,
      (turn.session.client.write batch).2.2, rfl, ?_, ?_⟩, fun _ _ => id⟩
    · rw [Peer.heardOn_write (.inr faces.active), faces.isClient, queued]
      cases opened : turn.session.client.isOpen with
      | false => simp [Session.ifOpen, opened]
      | true =>
        simp only [Session.ifOpen, opened, Bool.and_self, if_true, Bool.false_eq_true, if_false]
        exact (amid_nil.mpr faces.made).append (.self _)
    · rw [Peer.heardOn_write (.inr faces.active), away]
      exact .nil
  rw [Accounts, leads_toClient, leads_check]
  cases (turn.session.client.write batch).1 with
  | error fault => exact accounted
  | ok done => exact accounted

end Work

end Ferry
