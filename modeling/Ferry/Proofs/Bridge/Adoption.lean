import Ferry.Proofs.Bridge.Crossing

/-!
# Which backend's numbers a packet is put into

The client's numbers are put into those of the backend that has last been adopted: the one whose
word that it has spawned the player was taken over last. As the packets of a batch cross, a log is
kept of what was adopted and of what was let through. Each packet is carried by the mapping that has
come of the adoptions before it, and by nothing else.
-/

namespace Ferry

/-- A backend, on the link that leads to it. -/
structure Endpoint where
  link : LinkId
  server : Server

/-- The word of a backend that it has spawned the player, when it is taken over. -/
structure Adoption where
  backend : Endpoint
  start : StartGame

/-- A packet that is let through between the client and a backend. -/
structure Carriage where
  backend : Endpoint
  direction : Direction
  version : Version
  /-- The packet as it came. -/
  packet : BatchPacket
  /-- The packet as it goes on. -/
  passed : BatchPacket
  /-- The mapping that holds for it. -/
  mapping : Mapping

/-- What is worth noting as packets cross. -/
inductive Entry where
  | adopted (adoption : Adoption)
  | carried (carriage : Carriage)

/-- The adoptions in a log. -/
def adoptions (log : List Entry) : List Adoption :=
  log.filterMap fun
    | .adopted adoption => some adoption
    | .carried _ => none

/-- The packets that were let through according to a log. -/
def carriages (log : List Entry) : List Carriage :=
  log.filterMap fun
    | .adopted _ => none
    | .carried carriage => some carriage

/-- The mapping once a backend was adopted. -/
def Mapping.adopting (mapping : Mapping) (adoption : Adoption) : Mapping :=
  mapping.adopt ⟨adoption.start.runtimeId, adoption.start.uniqueId⟩
    adoption.backend.server.blocks adoption.backend.server.items

/-- What a mapping makes of a packet that is let through: if the packet may change on the way, it is
read and put into the terms of the other side, and otherwise it goes on as it came. -/
structure Mapping.Carries (mapping : Mapping) (direction : Direction) (version : Version)
    (packet passed : BatchPacket) : Prop where
  header : passed.header = packet.header
  body : passed.body = packet.body
  plain : mapping.concerns direction packet.header.id = false → passed.dirty = packet.dirty
  concerned : mapping.concerns direction packet.header.id = true → ∃ value,
    packet.decode version = .ok value ∧
      passed.decoded = some (mapping.packet direction value) ∧
      passed.dirty = (packet.dirty || (mapping.carry? direction value).isSome)

/-- A packet that is carried by some mapping, which was last adopted from the backend that the
packet comes from or goes to. -/
structure Carriage.IsOwn (carriage : Carriage) (mapping : Mapping) (last : Option Adoption) :
    Prop where
  holds : carriage.mapping = mapping
  carries : mapping.Carries carriage.direction carriage.version carriage.packet carriage.passed
  backend : ∀ adoption, last = some adoption → adoption.backend = carriage.backend

/-- A log that starts with some mapping and behind some adoption, in which every packet is carried
by the mapping that holds, and this was last adopted from the packet's own backend. -/
def AllOwn (mapping : Mapping) (last : Option Adoption) : List Entry → Prop
  | [] => True
  | .adopted adoption :: log => AllOwn (mapping.adopting adoption) (some adoption) log
  | .carried carriage :: log => carriage.IsOwn mapping last ∧ AllOwn mapping last log

/-- The ids that a mapping translates into are those of the backend that was adopted last. -/
theorem Mapping.backend_of_adoptions {mapping : Mapping} {adoptions : List Adoption}
    {adoption : Adoption} (last : adoptions.getLast? = some adoption) :
    (adoptions.foldl Mapping.adopting mapping).backend =
      ⟨adoption.start.runtimeId, adoption.start.uniqueId⟩ := by
  obtain ⟨earlier, rfl⟩ := List.getLast?_eq_some_iff.mp last
  rw [List.foldl_append]
  rfl

section Logs

variable {log first second : List Entry} {mapping : Mapping} {last : Option Adoption}

/-- The adoptions of two logs are noted one behind the other. -/
@[simp] theorem adoptions_append :
    adoptions (first ++ second) = adoptions first ++ adoptions second := List.filterMap_append

/-- What two logs say went on is noted one behind the other. -/
@[simp] theorem carriages_append :
    carriages (first ++ second) = carriages first ++ carriages second := List.filterMap_append

/-- A log of one adoption notes that adoption. -/
@[simp] theorem adoptions_adopted {adopted : Option Adoption} :
    adoptions (adopted.toList.map Entry.adopted) = adopted.toList := by cases adopted <;> rfl

/-- A log of one adoption notes nothing that went on. -/
@[simp] theorem carriages_adopted {adopted : Option Adoption} :
    carriages (adopted.toList.map Entry.adopted) = [] := by cases adopted <;> rfl

/-- A log of what went on notes no adoption. -/
@[simp] theorem adoptions_carried {carried : List Carriage} :
    adoptions (carried.map Entry.carried) = [] := by
  rw [adoptions, List.filterMap_map]
  exact List.filterMap_eq_nil_iff.mpr fun _ _ => rfl

/-- A log of what went on notes all of it. -/
@[simp] theorem carriages_carried {carried : List Carriage} :
    carriages (carried.map Entry.carried) = carried := by
  rw [carriages, List.filterMap_map]
  exact List.filterMap_some

/-- A log of one adoption carries nothing for anybody else. -/
theorem allOwn_adopted {adopted : Option Adoption} :
    AllOwn mapping last (adopted.toList.map Entry.adopted) := by cases adopted <;> trivial

/-- Without an adoption between them, packets are all carried by the same mapping. -/
theorem allOwn_carried {carried : List Carriage} :
    AllOwn mapping last (carried.map Entry.carried) ↔
      ∀ carriage ∈ carried, carriage.IsOwn mapping last := by
  induction carried with
  | nil => simp [AllOwn]
  | cons carriage carried ih => rw [List.map_cons, AllOwn, ih, List.forall_mem_cons]

/-- The backend that was last adopted, where all adoptions are of one backend. -/
theorem latest_of_endpoints {backend : Endpoint} {before : Option Endpoint}
    (endpoints : ∀ adoption ∈ adoptions log, adoption.backend = backend)
    (adopted : adoptions log ≠ [] ∨ before = some backend) :
    ((adoptions log).getLast?.map Adoption.backend).or before = .some backend := by
  cases latest : (adoptions log).getLast? with
  | none =>
    rcases adopted with adopted | rfl
    · exact absurd (List.getLast?_eq_none_iff.mp latest) adopted
    · rfl
  | some adoption => simp [endpoints adoption (List.mem_of_getLast? latest)]

/-- A log goes on with the mapping that its first part has led to. -/
theorem allOwn_append : AllOwn mapping last (first ++ second) ↔ AllOwn mapping last first ∧
    AllOwn ((adoptions first).foldl Mapping.adopting mapping)
      ((adoptions first).getLast?.or last) second := by
  induction first generalizing mapping last with
  | nil => simp [AllOwn, adoptions]
  | cons entry first ih =>
    cases entry with
    | adopted adoption =>
      have latest : ((adoptions first).getLast?.or (some adoption)) =
          (adoptions (.adopted adoption :: first)).getLast?.or last := by
        simp [adoptions, List.getLast?_cons]
      rw [List.cons_append, AllOwn, AllOwn, ih, latest]
      exact Iff.rfl
    | carried carriage =>
      rw [List.cons_append, AllOwn, AllOwn, ih, and_assoc]
      exact Iff.rfl

/-- Each packet of such a log is carried by what the adoptions before it have led to. -/
theorem AllOwn.at {earlier later : List Entry} {carriage : Carriage}
    (own : AllOwn mapping last (earlier ++ .carried carriage :: later)) :
    carriage.IsOwn ((adoptions earlier).foldl Mapping.adopting mapping)
      ((adoptions earlier).getLast?.or last) :=
  (allOwn_append.mp own).2.1

end Logs

/-- A log of packets that have crossed between the client and one backend: what has come of the
mapping, what goes on, and that each packet that does is carried for that backend, if nobody else
was adopted last. -/
structure IsLog (backend : Endpoint) (direction : Direction) (before : Mapping)
    (passed : List BatchPacket) (after : Mapping) (log : List Entry) : Prop where
  mapping : after = (adoptions log).foldl Mapping.adopting before
  passed : passed = (carriages log).map Carriage.passed
  adopted : ∀ adoption ∈ adoptions log, adoption.backend = backend
  carried : ∀ carriage ∈ carriages log,
    carriage.backend = backend ∧ carriage.direction = direction
  own : ∀ last : Option Adoption, (∀ adoption, last = some adoption → adoption.backend = backend) →
    AllOwn before last log

namespace IsLog

variable {backend : Endpoint} {direction : Direction} {before middle after : Mapping}
  {passed others : List BatchPacket} {log first second : List Entry} {packet : BatchPacket}

/-- Nothing crosses, and nothing is noted. -/
theorem nil : IsLog backend direction before [] before [] where
  mapping := rfl
  passed := rfl
  adopted := by rintro _ ⟨⟩
  carried := by rintro _ ⟨⟩
  own _ _ := trivial

/-- What crosses later is noted later. -/
theorem append (here : IsLog backend direction before passed middle first)
    (next : IsLog backend direction middle others after second) :
    IsLog backend direction before (passed ++ others) after (first ++ second) where
  mapping := by rw [adoptions_append, List.foldl_append, ← here.mapping, next.mapping]
  passed := by rw [carriages_append, List.map_append, ← here.passed, ← next.passed]
  adopted := by
    rw [adoptions_append]
    exact List.forall_mem_append.mpr ⟨here.adopted, next.adopted⟩
  carried := by
    rw [carriages_append]
    exact List.forall_mem_append.mpr ⟨here.carried, next.carried⟩
  own last known := by
    refine allOwn_append.mpr ⟨here.own last known, ?_⟩
    rw [← here.mapping]
    refine next.own _ fun adoption same => ?_
    rcases Option.or_eq_some_iff.mp same with latest | ⟨-, latest⟩
    · exact here.adopted adoption (List.mem_of_getLast? latest)
    · exact known adoption latest

/-- A backend that adopts the player is noted, and nothing goes on. -/
theorem of_adopted {adopted : Option Adoption}
    (ours : ∀ adoption, adopted = some adoption → adoption.backend = backend) :
    IsLog backend direction before [] (adopted.toList.foldl Mapping.adopting before)
      (adopted.toList.map Entry.adopted) where
  mapping := by rw [adoptions_adopted]
  passed := by rw [carriages_adopted, List.map_nil]
  adopted adoption mem := by
    rw [adoptions_adopted] at mem
    exact ours adoption (Option.mem_toList.mp mem)
  carried carriage mem := by
    rw [carriages_adopted] at mem
    cases mem
  own _ _ := allOwn_adopted

/-- What goes on under one mapping is noted as carried by it. -/
theorem of_carried {carried : List Carriage}
    (ours : ∀ carriage ∈ carried, carriage.backend = backend ∧ carriage.direction = direction)
    (carries : ∀ carriage ∈ carried, carriage.mapping = before ∧
      before.Carries carriage.direction carriage.version carriage.packet carriage.passed) :
    IsLog backend direction before (carried.map Carriage.passed) before
      (carried.map Entry.carried) where
  mapping := by rw [adoptions_carried, List.foldl_nil]
  passed := by rw [carriages_carried]
  adopted adoption mem := by
    rw [adoptions_carried] at mem
    cases mem
  carried := by
    rw [carriages_carried]
    exact ours
  own last known := by
    refine allOwn_carried.mpr fun carriage mem => ?_
    obtain ⟨mapping, carried⟩ := carries carriage mem
    exact ⟨mapping, carried, by rw [(ours carriage mem).1]; exact known⟩

/-- What goes on is noted as carried. -/
theorem carriage_of_mem (isLog : IsLog backend direction before passed after log)
    (mem : packet ∈ passed) : ∃ carriage ∈ carriages log,
      carriage.backend = backend ∧ carriage.direction = direction ∧ carriage.passed = packet := by
  rw [isLog.passed] at mem
  obtain ⟨carriage, noted, rfl⟩ := List.mem_map.mp mem
  obtain ⟨ours, way⟩ := isLog.carried carriage noted
  exact ⟨carriage, noted, ours, way, rfl⟩

end IsLog

/-! ## Handlers -/

/-- A handler that changes no packet that it lets through, and changes the mapping only by adopting
a backend, with the packets that are said to spawn the player. It is in a state that it keeps to. -/
structure Handler.Adopts {σ : Type} (handler : Handler σ) (backend : Endpoint)
    (valid : σ → Prop) (spawn? : σ → Packet → Option StartGame) : Prop where
  unchanged : ∀ state player value, (handler.handle state player value).packet = value
  unmodified : ∀ state player value, (handler.handle state player value).verdict ≠ .modified
  keeps : ∀ state player value, valid state → valid (handler.handle state player value).state
  wanted : ∀ state value start, spawn? state value = some start →
    handler.wants state value.id = true
  mapping : ∀ state player value, valid state → (handler.handle state player value).player.mapping =
    match spawn? state value with
    | some start => player.mapping.adopting ⟨backend, start⟩
    | none => player.mapping

/-- The word of a packet that the player was spawned. -/
def Packet.startGame? : Packet → Option StartGame
  | .startGame start => some start
  | _ => none

/-- The word of a packet that is taken over by a backend that is still logging the player in. -/
def Arrival.spawn? (arrival : Arrival) (packet : Packet) : Option StartGame :=
  if arrival.started then none else packet.startGame?

/-- No packet of the client changes the mapping. -/
theorem Handler.client_mapping (player : Player) (value : Packet) :
    (Handler.client.handle () player value).player.mapping = player.mapping := by
  unfold Handler.client
  dsimp only
  split
  · split <;> rfl
  · rfl
  · rfl

/-- The handler of the client adopts nobody. -/
theorem Handler.client_adopts (backend : Endpoint) :
    Handler.client.Adopts backend (fun _ => True) fun _ _ => none where
  unchanged _ := Handler.client_unchanged
  unmodified _ _ value := by
    unfold Handler.client
    dsimp only
    split
    · split <;> simp [Handled.untouched]
    · simp [Handled.untouched]
    · simp [Handled.untouched]
  keeps _ _ _ _ := trivial
  wanted _ _ _ spawned := by cases spawned
  mapping _ player value _ := Handler.client_mapping player value

/-- The handler of a backend adopts it with every word that it has spawned the player. -/
theorem Handler.backend_adopts (backend : Endpoint) :
    (Handler.backend backend.server).Adopts backend (fun _ => True)
      fun _ => Packet.startGame? where
  unchanged _ := Handler.backend_unchanged backend.server
  unmodified _ _ value := by cases value <;> simp [Handler.backend, Handled.untouched]
  keeps _ _ _ _ := trivial
  wanted _ value start spawned := by
    cases value with
    | startGame start => rfl
    | _ => cases spawned
  mapping _ _ value _ := by cases value <;> rfl

/-- The handler of a new backend adopts it with its first such word. -/
theorem Handler.arrival_adopts (backend : Endpoint) :
    Handler.arrival.Adopts backend (fun arrival => arrival.target = backend.server)
      Arrival.spawn? where
  unchanged := Handler.arrival_unchanged
  unmodified arrival player value := by
    unfold Handler.arrival
    dsimp only
    split
    · cases value <;> simp [Arrival.handleGame, Handled.untouched]
    · simp [(arrival.handleLogin_cancels player value).1]
  keeps arrival player value aimed :=
    (Handler.arrival_handle arrival player value).target.trans aimed
  wanted arrival value start spawned := by
    unfold Arrival.spawn? at spawned
    split at spawned
    · cases spawned
    next login => simp [Handler.arrival, login]
  mapping arrival player value aimed := by
    unfold Arrival.spawn? Handler.arrival
    dsimp only
    split
    next game => cases value <;> rfl
    next login =>
      have player := congrArg (fun pair => pair.2.mapping)
        (arrival.handleLogin_cancels player value).2
      refine player.trans ?_
      cases value with
      | startGame start =>
        simp only [Arrival.spawn, Player.adopt, Packet.startGame?, Mapping.adopting, aimed]
      | _ => rfl

/-! ## Batches -/

namespace Bridge

variable {σ : Type}

section Logs

variable (handler : Handler σ) (direction : Direction) (version : Version) (backend : Endpoint)
  (spawn? : σ → Packet → Option StartGame)

/-- The adoption that a packet brings. -/
def adoption? (state : σ) (packet : BatchPacket) : Option Adoption :=
  match packet.decode version with
  | .ok value => (spawn? state value).map (Adoption.mk backend)
  | .error _ => none

/-- What one packet brings: an adoption, and then the packet itself, if it is let through. -/
def entries (crossing : Crossing σ) (packet : BatchPacket) : List Entry :=
  let next := cross handler direction version crossing packet
  (adoption? version backend spawn? crossing.state packet).toList.map Entry.adopted ++
    (next.packets.drop crossing.packets.length).map fun passed =>
      .carried ⟨backend, direction, version, packet, passed, next.player.mapping⟩

/-- What packets bring in a row. -/
def logFrom (crossing : Crossing σ) : List BatchPacket → List Entry
  | [] => []
  | packet :: packets =>
    entries handler direction version backend spawn? crossing packet ++
      logFrom (cross handler direction version crossing packet) packets

/-- What a batch brings that crosses between the client and a backend. -/
def log (state : σ) (player : Player) (batch : Batch) : List Entry :=
  logFrom handler direction version backend spawn? ⟨state, player, [], BridgeReport.zero, []⟩
    batch.packets

end Logs

variable {handler : Handler σ} {direction : Direction} {version : Version} {backend : Endpoint}
  {valid : σ → Prop} {spawn? : σ → Packet → Option StartGame} {crossing : Crossing σ}
  {packet : BatchPacket} {packets : List BatchPacket} {last : Option Adoption}

/-- A backend is only adopted by its own word. -/
theorem adoption?_backend {state : σ} {adoption : Adoption}
    (brought : adoption? version backend spawn? state packet = some adoption) :
    adoption.backend = backend := by
  unfold adoption? at brought
  split at brought
  · obtain ⟨start, -, rfl⟩ := Option.map_eq_some_iff.mp brought
    rfl
  · cases brought

/-- Nothing is adopted with a packet that nobody wants to look at. -/
theorem adoption?_of_unwanted (adopts : handler.Adopts backend valid spawn?)
    (received : packet.decoded = none)
    (unwanted : handler.wants crossing.state packet.header.id = false) :
    adoption? version backend spawn? crossing.state packet = none := by
  unfold adoption?
  cases decoded : packet.decode version with
  | error fault => rfl
  | ok value =>
    cases spawned : spawn? crossing.state value with
    | none => simp [spawned]
    | some start =>
      have wanted := adopts.wanted _ _ _ spawned
      rw [BatchPacket.id_of_decode received decoded, unwanted] at wanted
      cases wanted

/-- What looking at a packet leads to. -/
theorem handle_adopts (adopts : handler.Adopts backend valid spawn?) (holds : valid crossing.state)
    {value : Packet} (received : packet.decoded = none)
    (decoded : packet.decode version = .ok value) :
    let handled := handle handler crossing.state crossing.player packet.header.id value
    valid handled.state ∧ handled.player.mapping =
      (adoption? version backend spawn? crossing.state packet).toList.foldl Mapping.adopting
        crossing.player.mapping := by
  have brought : adoption? version backend spawn? crossing.state packet =
      (spawn? crossing.state value).map (Adoption.mk backend) := by simp [adoption?, decoded]
  unfold handle
  split
  · refine ⟨adopts.keeps _ _ _ holds, ?_⟩
    rw [adopts.mapping _ _ _ holds, brought]
    cases spawn? crossing.state value <;> rfl
  next unwanted =>
    rw [adoption?_of_unwanted adopts received (by simpa using unwanted)]
    exact ⟨holds, rfl⟩

/-- A packet that is passed on is carried by the mapping that holds once it was looked at. -/
theorem passOn_carries (adopts : handler.Adopts backend valid spawn?) {value : Packet}
    {handled : Handled σ} (decoded : packet.decode version = .ok value)
    (same : handled = handle handler crossing.state crossing.player packet.header.id value) :
    (passOn direction packet handled).2.mapping = handled.player.mapping ∧
      handled.player.mapping.Carries direction version packet
        (passOn direction packet handled).1 := by
  have kept : handled.packet = value := by
    rw [same]
    exact handle_unchanged adopts.unchanged _ _
  have unmodified : handled.verdict ≠ .modified := by
    rw [same]
    unfold handle
    split
    · exact adopts.unmodified _ _ _
    · simp [Handled.untouched]
  have still : (passOn direction packet handled).2.mapping = handled.player.mapping := by
    unfold passOn
    dsimp only
    split <;> rfl
  refine ⟨still, rfl, rfl, fun plain => ?_, fun concerned => ⟨value, decoded, ?_, ?_⟩⟩
  · simp [passOn, plain, unmodified]
  · simp only [passOn, concerned, if_true, kept]
  · simp only [passOn, concerned, kept, unmodified, Mapping.carry?, decide_false,
      Bool.false_or, Bool.true_and]
    by_cases changed : handled.player.mapping.changes direction value = true
    · simp [changed]
    · simp [changed]

/-- What one packet brings, and what it leads to. -/
theorem entries_cross (adopts : handler.Adopts backend valid spawn?) (holds : valid crossing.state)
    (received : packet.decoded = none) :
    let next := cross handler direction version crossing packet
    let adopted := adoption? version backend spawn? crossing.state packet
    valid next.state ∧
      next.player.mapping = adopted.toList.foldl Mapping.adopting crossing.player.mapping ∧
      ∃ passed : List BatchPacket, next.packets = crossing.packets ++ passed ∧
        ∀ other ∈ passed, next.player.mapping.Carries direction version packet other := by
  intro next adopted
  have crosses := @cross_crosses σ handler direction version crossing packet
  generalize reached : (cross handler direction version crossing packet).passage = passage
    at crosses
  have parts : ∀ {state player through}, passage = (state, player, through) →
      next.state = state ∧ next.player = player ∧ next.packets = through := by
    rintro state player through rfl
    simpa [Crossing.passage] using reached
  cases crosses with
  | unread unnoticed =>
    obtain ⟨state, player, through⟩ := parts rfl
    simp only [isNoticed, Bool.or_eq_false_iff] at unnoticed
    have nothing : adopted = none := adoption?_of_unwanted adopts received unnoticed.1.1
    refine ⟨by rw [state]; exact holds, by rw [player, nothing]; rfl,
      [packet], through, List.forall_mem_singleton.mpr ?_⟩
    rw [player]
    exact ⟨rfl, rfl, fun _ => rfl, fun concerned => by simp [unnoticed.1.2] at concerned⟩
  | unreadable decoded =>
    obtain ⟨state, player, through⟩ := parts rfl
    exact ⟨by rw [state]; exact holds, by simp [player, adopted, adoption?, decoded],
      [], by simp [through], by simp⟩
  | takenOut decoded same =>
    obtain ⟨state, player, through⟩ := parts rfl
    obtain ⟨stays, mapping⟩ := handle_adopts adopts holds received decoded
    rw [← same] at stays mapping
    exact ⟨by rw [state]; exact stays, by rw [player, mapping], [], by simp [through], by simp⟩
  | letThrough decoded same =>
    obtain ⟨state, player, through⟩ := parts rfl
    obtain ⟨stays, mapping⟩ := handle_adopts adopts holds received decoded
    rw [← same] at stays mapping
    obtain ⟨still, carries⟩ := @passOn_carries σ handler direction version backend valid spawn?
      crossing packet adopts _ _ decoded same
    refine ⟨by rw [state]; exact stays, by rw [player, still, mapping], _, through,
      List.forall_mem_singleton.mpr ?_⟩
    rw [player, still]
    exact carries

/-- What one packet brings is a log of it. -/
theorem entries_isLog (adopts : handler.Adopts backend valid spawn?) (holds : valid crossing.state)
    (received : packet.decoded = none) :
    let next := cross handler direction version crossing packet
    valid next.state ∧ ∃ passed, next.packets = crossing.packets ++ passed ∧
      IsLog backend direction crossing.player.mapping passed next.player.mapping
        (entries handler direction version backend spawn? crossing packet) := by
  intro next
  obtain ⟨stays, mapping, passed, through, carries⟩ :=
    @entries_cross σ handler direction version backend valid spawn? crossing packet
      adopts holds received
  refine ⟨stays, passed, through, ?_⟩
  let carried := passed.map fun other : BatchPacket =>
    (⟨backend, direction, version, packet, other, next.player.mapping⟩ : Carriage)
  have adoption := @IsLog.of_adopted backend direction crossing.player.mapping
    (adoption? version backend spawn? crossing.state packet) fun _ => adoption?_backend
  have carriage := @IsLog.of_carried backend direction next.player.mapping carried
    (List.forall_mem_map.mpr fun _ _ => ⟨rfl, rfl⟩)
    (List.forall_mem_map.mpr fun other mem => ⟨rfl, carries other mem⟩)
  have entered : entries handler direction version backend spawn? crossing packet =
      (adoption? version backend spawn? crossing.state packet).toList.map Entry.adopted ++
        carried.map Entry.carried := by
    simp [entries, through, carried, next, Function.comp_def]
  have same : carried.map Carriage.passed = passed := by simp [carried, Function.comp_def]
  rw [← mapping] at adoption
  rw [same] at carriage
  rw [entered]
  exact adoption.append carriage

/-- What packets in a row bring is a log of them. -/
theorem foldl_isLog (adopts : handler.Adopts backend valid spawn?) (holds : valid crossing.state)
    (received : ∀ packet ∈ packets, packet.decoded = none) :
    let after := packets.foldl (cross handler direction version) crossing
    ∃ passed, after.packets = crossing.packets ++ passed ∧
      IsLog backend direction crossing.player.mapping passed after.player.mapping
        (logFrom handler direction version backend spawn? crossing packets) := by
  induction packets generalizing crossing with
  | nil => exact ⟨[], (List.append_nil _).symm, .nil⟩
  | cons packet packets ih =>
    obtain ⟨first, others⟩ := List.forall_mem_cons.mp received
    obtain ⟨stays, passed, through, here⟩ :=
      @entries_isLog σ handler direction version backend valid spawn? crossing packet
        adopts holds first
    obtain ⟨more, beyond, next⟩ := ih stays others
    exact ⟨passed ++ more, by rw [List.foldl_cons, beyond, through, List.append_assoc],
      here.append next⟩

/-- What a batch brings is a log of it. -/
theorem process_isLog (adopts : handler.Adopts backend valid spawn?) {state : σ} {player : Player}
    {batch : Batch} (holds : valid state)
    (received : ∀ packet ∈ batch.packets, packet.decoded = none) :
    let result := process handler direction version state player batch
    IsLog backend direction player.mapping result.batch.packets result.player.mapping
      (log handler direction version backend spawn? state player batch) := by
  obtain ⟨passed, through, isLog⟩ := @foldl_isLog σ handler direction version backend valid spawn?
    ⟨state, player, [], BridgeReport.zero, []⟩ batch.packets adopts holds received
  intro result
  have same : result.batch.packets = passed := by
    rw [process_packets]
    exact through
  rw [same]
  exact isLog

/-- Nobody is adopted where no packet spawns the player. -/
theorem logFrom_unspawned (unspawned : ∀ state value, spawn? state value = none) :
    adoptions (logFrom handler direction version backend spawn? crossing packets) = [] := by
  induction packets generalizing crossing with
  | nil => rfl
  | cons packet packets ih =>
    have nothing : adoption? version backend spawn? crossing.state packet = none := by
      unfold adoption?
      cases packet.decode version with
      | error fault => rfl
      | ok value => simp [unspawned _ value]
    have carried : adoptions (entries handler direction version backend spawn? crossing packet) =
        [] := by
      simp only [entries, nothing, Option.toList, List.map_nil, List.nil_append]
      exact List.filterMap_eq_nil_iff.mpr (List.forall_mem_map.mpr fun _ _ => rfl)
    rw [logFrom, adoptions_append, carried, ih]
    rfl

/-- A backend that is still logging the player in is adopted before any packet of it is let
through, if it spawns the player at all. -/
theorem logFrom_login {crossing : Crossing Arrival} (login : crossing.state.started = false)
    (aimed : crossing.state.target = backend.server)
    (received : ∀ packet ∈ packets, packet.decoded = none) :
    let log := logFrom Handler.arrival .clientbound version backend Arrival.spawn? crossing packets
    AllOwn crossing.player.mapping last log ∧
      (adoptions log).isEmpty = (StartGame.first version packets).isNone := by
  induction packets generalizing crossing with
  | nil => exact ⟨trivial, rfl⟩
  | cons packet packets ih =>
    obtain ⟨here, others⟩ := List.forall_mem_cons.mp received
    have step := @cross_login version crossing packet login
    simp only [logFrom, StartGame.first]
    split at step
    next start decoded =>
      obtain ⟨state, rest⟩ := Prod.mk.inj step
      obtain ⟨player, through⟩ := Prod.mk.inj rest
      obtain ⟨_, -, isLog⟩ := @foldl_isLog Arrival Handler.arrival .clientbound version
        backend _ Arrival.spawn? (cross Handler.arrival .clientbound version crossing packet)
        packets (Handler.arrival_adopts backend) (by rw [state]; exact aimed) others
      have entered : entries Handler.arrival .clientbound version backend Arrival.spawn? crossing
          packet = [.adopted ⟨backend, start⟩] := by
        simp [entries, adoption?, decoded, Arrival.spawn?, login, Packet.startGame?, through]
      have adopted : (cross Handler.arrival .clientbound version crossing packet).player.mapping =
          crossing.player.mapping.adopting ⟨backend, start⟩ := by
        rw [player, Mapping.adopting, ← aimed]
        rfl
      rw [entered, List.singleton_append, AllOwn, ← adopted]
      refine ⟨isLog.own _ ?_, rfl⟩
      rintro _ ⟨⟩
      rfl
    next other =>
      obtain ⟨state, rest⟩ := Prod.mk.inj step
      obtain ⟨player, through⟩ := Prod.mk.inj rest
      have entered : entries Handler.arrival .clientbound version backend Arrival.spawn? crossing
          packet = [] := by
        have nothing : adoption? version backend Arrival.spawn? crossing.state packet = none := by
          unfold adoption?
          cases decoded : packet.decode version with
          | error fault => rfl
          | ok value =>
            cases value with
            | startGame start => exact absurd decoded (other start)
            | _ => simp [Arrival.spawn?, login, Packet.startGame?]
        simp [entries, nothing, through]
      rw [entered, List.nil_append, ← player]
      exact ih (by rw [state]; exact login) (by rw [state]; exact aimed) others

end Bridge

end Ferry
