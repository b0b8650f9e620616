import Ferry.Proofs.Bridge.CrossingLog
import Ferry.Proofs.Mapping.PacketIds

/-!
# The ids that the client knows itself by

However many backends are adopted one after another, the client keeps the ids and the palettes of
the first one, or the ids that were laid down for it. Every word of a backend that it has spawned
the player reaches the client with these ids. And whoever names the player by the id that it has on
its own side, names it on the other side by the id that it has there: a backend to the client, by
the ids that the backend in force gave it, and the client to a backend.
-/

namespace Ferry

/-- The ids that a backend has given the player. -/
def StartGame.ids (start : StartGame) : PlayerIds := ⟨start.runtimeId, start.uniqueId⟩

/-! ## The player's own ids -/

/-- The player's ids on the side that a packet comes from. -/
def Mapping.sender (mapping : Mapping) : Direction → PlayerIds
  | .clientbound => mapping.backend
  | .serverbound => mapping.client

/-- The player's ids on the side that a packet goes to. -/
def Mapping.receiver (mapping : Mapping) : Direction → PlayerIds
  | .clientbound => mapping.client
  | .serverbound => mapping.backend

/-- The player's runtime id of the one side becomes that of the other side. -/
theorem Mapping.runtimeId_sender {mapping : Mapping} {direction : Direction} :
    mapping.runtimeId (mapping.sender direction).runtimeId =
      (mapping.receiver direction).runtimeId := by
  cases direction with
  | clientbound => simp [runtimeId, swap, sender, receiver]
  | serverbound => simp [runtimeId, swap, sender, receiver, eq_comm]

/-- The player's unique id of the one side becomes that of the other side. -/
theorem Mapping.uniqueId_sender {mapping : Mapping} {direction : Direction} :
    mapping.uniqueId (mapping.sender direction).uniqueId =
      (mapping.receiver direction).uniqueId := by
  cases direction with
  | clientbound => simp [uniqueId, swap, sender, receiver]
  | serverbound => simp [uniqueId, swap, sender, receiver, eq_comm]

/-- As many ids arrive as came, and wherever one of them was `own`, `other` stands in its place. -/
def Turns {ι : Type} (own other : ι) (came arrives : List ι) : Prop :=
  List.Forall₂ (fun before after => before = own → after = other) came arrives

/-- A change that turns the one id into the other turns it all along a list. -/
theorem turns_map {ι : Type} {own other : ι} {change : ι → ι} (turned : change own = other)
    (came : List ι) : Turns own other came (came.map change) := by
  induction came with
  | nil => exact .nil
  | cons id came ih => exact .cons (fun same => same ▸ turned) ih

/-- What is read at the other end of a packet that goes on. -/
def Carriage.arriving (carriage : Carriage) : Except DecodeError Packet :=
  (carriage.passed.arrived carriage.version).decode carriage.version

/-- Whether a packet that is read as some value is read at the other end as one of the same kind, in
which the player is named by the ids that it has there wherever it was named by its own ids. -/
def Carriage.TurnsIds (carriage : Carriage) (value : Packet) : Prop :=
  ∃ arriving, carriage.arriving = .ok arriving ∧ arriving.id = value.id ∧
    Turns (carriage.mapping.sender carriage.direction).runtimeId
      (carriage.mapping.receiver carriage.direction).runtimeId
      value.runtimeIds arriving.runtimeIds ∧
    Turns (carriage.mapping.sender carriage.direction).uniqueId
      (carriage.mapping.receiver carriage.direction).uniqueId
      value.uniqueIds arriving.uniqueIds

/-- A packet that carries renamed ids arrives with the player named as it is on the other side. -/
theorem Carriage.turnsIds (carriage : Carriage) {value : Packet}
    (carries : carriage.mapping.Carries carriage.direction carriage.version carriage.packet
      carriage.passed)
    (received : carriage.packet = .received carriage.packet.header carriage.packet.body)
    (renamed : Mapping.renames carriage.direction carriage.packet.header.id = true)
    (decoded : carriage.packet.decode carriage.version = .ok value) : carriage.TurnsIds value := by
  obtain ⟨arriving, read, kind, runtimeIds, uniqueIds⟩ :=
    carries.arrives (by rw [received]; rfl) (by rw [received]; rfl) renamed decoded
  refine ⟨arriving, read, kind, ?_, ?_⟩
  · rw [runtimeIds]
    exact turns_map Mapping.runtimeId_sender _
  · rw [uniqueIds]
    exact turns_map Mapping.uniqueId_sender _

/-! ## Histories -/

/-- The mapping knows what the client has learned. -/
structure Mapping.Knows (mapping : Mapping) (ids : PlayerIds) (blocks : SharedPalette BlockId)
    (items : SharedPalette ItemId) : Prop where
  ids : mapping.clientIds = some ids
  blocks : mapping.clientBlocks = some blocks
  items : mapping.clientItems = some items

/-- What the client has learned it keeps, whoever is adopted. -/
theorem Mapping.Knows.adopting {mapping : Mapping} {ids : PlayerIds}
    {blocks : SharedPalette BlockId} {items : SharedPalette ItemId}
    (knows : mapping.Knows ids blocks items) (adoptions : List Adoption) :
    (adoptions.foldl Mapping.adopting mapping).Knows ids blocks items := by
  induction adoptions generalizing mapping with
  | nil => exact knows
  | cons adoption adoptions ih =>
    obtain ⟨ids, blocks, items⟩ := knows
    exact ih ⟨by simp [Mapping.adopting, adopt, ids], by simp [Mapping.adopting, adopt, blocks],
      by simp [Mapping.adopting, adopt, items]⟩

/-- The ids that the client goes by are those it has learned. -/
theorem Mapping.Knows.client {mapping : Mapping} {ids : PlayerIds}
    {blocks : SharedPalette BlockId} {items : SharedPalette ItemId}
    (knows : mapping.Knows ids blocks items) : mapping.client = ids := by
  rw [Mapping.client, knows.ids]
  rfl

/-- The client learns its ids, unless they were laid down for it, and the palettes from the first
backend that is adopted. -/
theorem Mapping.knows_first {clientIds : Option PlayerIds} {first : Adoption}
    {others : List Adoption} :
    ((first :: others).foldl Mapping.adopting (.start clientIds)).Knows
      (clientIds.getD first.start.ids) first.backend.server.blocks first.backend.server.items := by
  rw [List.foldl_cons]
  exact Knows.adopting ⟨rfl, rfl, rfl⟩ others

/-- A batch crosses between the client and a backend: which of its packets are due on the other
side, what goes on, what becomes of the player, and the log of it. -/
inductive Bridge.Bridged (backend : Endpoint) (version : Version) (player : Player)
    (batch : Batch) : List BatchPacket → List BatchPacket → Player → List Entry → Prop
  | client : Bridged backend version player batch
      (due version (fun value => !(player.transfer.isSome && value.isAnswer)) batch.packets)
      (process Handler.client .serverbound version () player batch).batch.packets
      (process Handler.client .serverbound version () player batch).player
      (log Handler.client .serverbound version backend (fun _ _ => none) () player batch)
  | backend : Bridged backend version player batch
      (due version (fun value => value.id ≠ PacketId.disconnect) batch.packets)
      (process (Handler.backend backend.server) .clientbound version () player batch).batch.packets
      (process (Handler.backend backend.server) .clientbound version () player batch).player
      (log (Handler.backend backend.server) .clientbound version backend
        (fun _ => Packet.startGame?) () player batch)
  | arrival {arrival : Arrival} (aimed : arrival.target = backend.server) :
      Bridged backend version player batch (dueOfArrival version arrival batch.packets)
      (process Handler.arrival .clientbound version arrival player batch).batch.packets
      (process Handler.arrival .clientbound version arrival player batch).player
      (log Handler.arrival .clientbound version backend Arrival.spawn? arrival player batch)

/-- How the player may have come to be as it is, with a log of the backends that were adopted and of
the packets that went on between them and the client. -/
inductive Player.History (clientIds : Option PlayerIds) : List Entry → Player → Prop
  | start {player : Player} (fresh : player.mapping = .start clientIds) :
      History clientIds [] player
  /-- A backend is adopted by itself. -/
  | adopted {log : List Entry} {player : Player} (before : History clientIds log player)
      (adoption : Adoption) : History clientIds (log ++ [.adopted adoption])
        (player.adopt adoption.start adoption.backend.server)
  /-- Anything but the mapping changes. -/
  | changed {log : List Entry} {player next : Player} (before : History clientIds log player)
      (same : next.mapping = player.mapping) : History clientIds log next
  /-- A batch crosses, as it was received. -/
  | crossed {log more : List Entry} {player next : Player} {backend : Endpoint} {version : Version}
      {batch : Batch} {due passed : List BatchPacket} (before : History clientIds log player)
      (received : ∀ packet ∈ batch.packets, packet = .received packet.header packet.body)
      (bridged : Bridge.Bridged backend version player batch due passed next more) :
      History clientIds (log ++ more) next

namespace Bridge

variable {backend : Endpoint} {version : Version} {player next : Player} {batch : Batch}
  {expected passed : List BatchPacket} {more earlier later : List Entry} {carriage : Carriage}

/-- A packet that was received is not decoded yet. -/
theorem undecoded_of_received {packets : List BatchPacket}
    (received : ∀ packet ∈ packets, packet = .received packet.header packet.body) :
    ∀ packet ∈ packets, packet.decoded = none := by
  intro packet mem
  rw [received packet mem]
  rfl

/-- The log of a batch that crosses is a log of what went on of it. -/
theorem Bridged.isLog (bridged : Bridged backend version player batch expected passed next more)
    (received : ∀ packet ∈ batch.packets, packet = .received packet.header packet.body) :
    ∃ direction, IsLog backend direction player.mapping passed next.mapping more := by
  have undecoded := undecoded_of_received received
  cases bridged with
  | client => exact ⟨_, process_isLog (Handler.client_adopts backend) trivial undecoded⟩
  | backend => exact ⟨_, process_isLog (Handler.backend_adopts backend) trivial undecoded⟩
  | arrival aimed => exact ⟨_, process_isLog (Handler.arrival_adopts backend) aimed undecoded⟩

/-- What is certain of a packet that goes on, behind some log and under some mapping: it is one that
was received, the mapping carries it, and if it tells the client that the player was spawned, its
backend has just been adopted. -/
structure Carried (mapping : Mapping) (earlier : List Entry) (carriage : Carriage) : Prop where
  holds : carriage.mapping = mapping
  carries : mapping.Carries carriage.direction carriage.version carriage.packet carriage.passed
  received : carriage.packet = .received carriage.packet.header carriage.packet.body
  heralded : carriage.direction = .clientbound →
    carriage.packet.header.id = PacketId.startGame → ∃ before adoption,
      carriage.packet.decode carriage.version = .ok (.startGame adoption.start) ∧
      earlier = before ++ [.adopted adoption]

/-- What the log says went on was carried under the backend adopted last before it. -/
theorem Bridged.carried (bridged : Bridged backend version player batch expected passed next more)
    (received : ∀ packet ∈ batch.packets, packet = .received packet.header packet.body)
    (split : more = earlier ++ .carried carriage :: later) :
    Carried ((adoptions earlier).foldl Mapping.adopting player.mapping) earlier carriage := by
  obtain ⟨direction, isLog⟩ := bridged.isLog received
  have own := isLog.own none nofun
  rw [split] at own
  have undecoded := undecoded_of_received received
  refine ⟨own.at.holds, own.at.carries, ?_, fun clientbound kind => ?_⟩
  · cases bridged <;> exact received _ (logFrom_carried split).1
  · cases bridged with
    | client =>
      have serverbound := (logFrom_carried split).2.1
      rw [clientbound] at serverbound
      cases serverbound
    | backend =>
      obtain ⟨-, -, rfl, heralded⟩ := logFrom_carried split
      obtain ⟨before, start, decoded, behind⟩ :=
        heralded (Handler.backend_heralds _) undecoded kind
      exact ⟨before, ⟨backend, start⟩, decoded, behind⟩
    | arrival =>
      obtain ⟨-, -, rfl, heralded⟩ := logFrom_carried split
      obtain ⟨before, start, decoded, behind⟩ :=
        heralded Handler.arrival_heralds undecoded kind
      exact ⟨before, ⟨backend, start⟩, decoded, behind⟩

/-- Everything is carried that is due, and nothing but what has come. -/
theorem Bridged.delivers
    (bridged : Bridged backend version player batch expected passed next more) :
    expected.Sublist ((carriages more).map Carriage.packet) ∧
      ((carriages more).map Carriage.packet).Sublist batch.packets := by
  cases bridged with
  | client => exact ⟨logFrom_due (Handler.client_letsThrough _) rfl, logFrom_sublist⟩
  | backend => exact ⟨logFrom_due (Handler.backend_letsThrough _) trivial, logFrom_sublist⟩
  | arrival => exact ⟨logFrom_dueOfArrival rfl, logFrom_sublist⟩

/-- What is certain behind a log is certain behind a longer one. -/
theorem Carried.behind {mapping : Mapping} {log : List Entry}
    (carried : Carried mapping earlier carriage) : Carried mapping (log ++ earlier) carriage where
  holds := carried.holds
  carries := carried.carries
  received := carried.received
  heralded clientbound kind := by
    obtain ⟨before, adoption, decoded, rfl⟩ := carried.heralded clientbound kind
    exact ⟨log ++ before, adoption, decoded, (List.append_assoc ..).symm⟩

end Bridge

/-- What every history comes to: the mapping is what the adoptions have led to, and each packet that
has gone on was carried by what the adoptions before it had led to. -/
theorem Player.History.follows {clientIds : Option PlayerIds} {log : List Entry} {player : Player}
    (history : player.History clientIds log) :
    player.mapping = (adoptions log).foldl Mapping.adopting (.start clientIds) ∧
      ∀ earlier carriage later, log = earlier ++ .carried carriage :: later →
        Bridge.Carried ((adoptions earlier).foldl Mapping.adopting (.start clientIds)) earlier
          carriage := by
  induction history with
  | start fresh => exact ⟨fresh, fun earlier _ _ split => by simp at split⟩
  | adopted _ adoption ih =>
    obtain ⟨mapping, carried⟩ := ih
    refine ⟨?_, fun earlier carriage later split => ?_⟩
    · rw [adoptions_append, List.foldl_append, ← mapping]
      rfl
    · rcases append_eq_append_cons.mp split with ⟨front, -, alone⟩ | ⟨back, here, -⟩
      · cases front <;> simp at alone
      · exact carried earlier carriage back here
  | changed _ same ih => exact ⟨same.trans ih.1, ih.2⟩
  | @crossed log more player next backend version batch due passed before received bridged ih =>
    obtain ⟨mapping, carried⟩ := ih
    obtain ⟨direction, isLog⟩ := bridged.isLog received
    refine ⟨?_, fun earlier carriage later split => ?_⟩
    · rw [adoptions_append, List.foldl_append, ← mapping, isLog.mapping]
    · rcases append_eq_append_cons.mp split with ⟨front, rfl, there⟩ | ⟨back, here, -⟩
      · rw [adoptions_append, List.foldl_append, ← mapping]
        exact (bridged.carried received there).behind
      · exact carried earlier carriage back here

/-- The word that the player was spawned arrives with the ids of the client, if the mapping has the
ids in it for those of the backend. -/
theorem Carriage.arriving_startGame {carriage : Carriage} {start : StartGame}
    (turns : carriage.TurnsIds (.startGame start)) (clientbound : carriage.direction = .clientbound)
    (kind : carriage.passed.header.id = PacketId.startGame)
    (backend : carriage.mapping.backend = start.ids) : ∃ arriving,
      carriage.arriving = .ok (.startGame arriving) ∧ arriving.ids = carriage.mapping.client := by
  obtain ⟨value, read, -, runtimeIds, uniqueIds⟩ := turns
  have word : Packet.decode carriage.version carriage.passed.header.id
      (carriage.passed.outgoingBody carriage.version) = .ok value := read
  rw [kind] at word
  obtain ⟨arriving, rfl⟩ := Packet.decode_startGame word
  simp only [clientbound, Mapping.sender, Mapping.receiver, backend] at runtimeIds uniqueIds
  obtain ⟨runtimeId, -⟩ := List.forall₂_cons.mp runtimeIds
  obtain ⟨uniqueId, -⟩ := List.forall₂_cons.mp uniqueIds
  exact ⟨arriving, read, by rw [StartGame.ids, runtimeId rfl, uniqueId rfl]⟩

/-- Whatever backends a player is on one after the other, whether its ids were laid down beforehand
or not: from the first adoption on the client's ids and palettes are those of that backend, apart
from ids that were laid down. The same holds at every packet that goes on, whose mapping
has the ids of the backend that was adopted last on the other side. If the packet tells the client
that it was spawned, it arrives with the client's ids. And whatever is renamed in packets of its
kind arrives as renamed: who names the player by the id of its own side is heard to name it by the
id of the other side. Whenever a batch crosses, what goes on is what is logged: packets of the batch
in their order, and among them each that can be read and that the handler does not take out. -/
theorem Player.history_keepsIds {clientIds : Option PlayerIds} {log : List Entry} {player : Player}
    (history : player.History clientIds log) :
    (∀ first rest, adoptions log = first :: rest →
      player.mapping.client = clientIds.getD first.start.ids ∧
      player.mapping.clientBlocks = some first.backend.server.blocks ∧
      player.mapping.clientItems = some first.backend.server.items) ∧
    (∀ earlier carriage later, log = earlier ++ .carried carriage :: later →
      (∀ first rest, adoptions earlier = first :: rest →
        carriage.mapping.client = clientIds.getD first.start.ids) ∧
      (∀ last, (adoptions earlier).getLast? = some last →
        carriage.mapping.backend = last.start.ids) ∧
      (carriage.direction = .clientbound → carriage.packet.header.id = PacketId.startGame →
        ∃ first rest start, adoptions earlier = first :: rest ∧
          carriage.arriving = .ok (.startGame start) ∧
          start.ids = clientIds.getD first.start.ids) ∧
      (Mapping.renames carriage.direction carriage.packet.header.id = true →
        ∀ value, carriage.packet.decode carriage.version = .ok value →
          carriage.TurnsIds value)) ∧
    ∀ backend version batch due passed next more,
      (∀ packet ∈ batch.packets, packet = .received packet.header packet.body) →
      Bridge.Bridged backend version player batch due passed next more →
      passed = (carriages more).map Carriage.passed ∧
      due.Sublist ((carriages more).map Carriage.packet) ∧
      ((carriages more).map Carriage.packet).Sublist batch.packets := by
  obtain ⟨mapping, carried⟩ := history.follows
  refine ⟨fun first rest adopted => ?_, fun earlier carriage later split => ?_, ?_⟩
  · have knows := @Mapping.knows_first clientIds first rest
    rw [← adopted, ← mapping] at knows
    exact ⟨knows.client, knows.blocks, knows.items⟩
  · obtain ⟨holds, carries, received, heralded⟩ := carried earlier carriage later split
    rw [← holds] at carries
    have client : ∀ first rest, adoptions earlier = first :: rest →
        carriage.mapping.client = clientIds.getD first.start.ids := by
      intro first rest adopted
      have knows := @Mapping.knows_first clientIds first rest
      rw [← adopted, ← holds] at knows
      exact knows.client
    have backend : ∀ last, (adoptions earlier).getLast? = some last →
        carriage.mapping.backend = last.start.ids := by
      intro last latest
      rw [holds]
      exact Mapping.backend_of_adoptions latest
    refine ⟨client, backend, fun clientbound kind => ?_,
      fun renamed _ decoded => carriage.turnsIds carries received renamed decoded⟩
    -- its backend has just been adopted, so that the mapping has the ids that it comes with
    obtain ⟨before, adoption, decoded, rfl⟩ := heralded clientbound kind
    have just : adoptions (before ++ [.adopted adoption]) = adoptions before ++ [adoption] :=
      adoptions_append
    have renamed : Mapping.renames carriage.direction carriage.packet.header.id = true := by
      rw [clientbound, kind]
      rfl
    obtain ⟨start, arriving, ids⟩ := Carriage.arriving_startGame
      (carriage.turnsIds carries received renamed decoded) clientbound
      (by rw [carries.header, kind]) (backend adoption (by simp [just]))
    cases adopted : adoptions (before ++ [.adopted adoption]) with
    | nil => simp [just] at adopted
    | cons first rest => exact ⟨first, rest, start, rfl, arriving, ids.trans (client _ _ adopted)⟩
  · intro backend version batch due passed next more received bridged
    obtain ⟨direction, isLog⟩ := bridged.isLog received
    exact ⟨isLog.passed, bridged.delivers⟩

/-- A player whom the first backend calls 1 and the second one 5: the client goes on as 1, and what
it says of itself is heard as said of 5. -/
theorem Player.history_keepsIds_second :
    let spawned (server : Server) (ids : PlayerIds) : Adoption := ⟨⟨.backend 0, server⟩,
      ⟨ids.uniqueId, ids.runtimeId, 0, Vector.zero, Rotation.zero, 0, 0, "", 0, []⟩⟩
    let first := spawned Sample.lobby ⟨1, 1⟩
    let second := spawned Sample.survival ⟨5, 5⟩
    let player := ((Player.start none).adopt first.start first.backend.server).adopt second.start
      second.backend.server
    let header := Header.ofId PacketId.setLocalPlayerAsInitialized
    let batch : Batch := ⟨[.received header [1]], none, none, .none, false, false⟩
    let result := Bridge.process Handler.client .serverbound .v712 () player batch
    let log := Bridge.log Handler.client .serverbound .v712 second.backend (fun _ _ => none) ()
      player batch
    result.player.History none ([.adopted first, .adopted second] ++ log) ∧
      result.player.mapping.client = ⟨1, 1⟩ ∧
      ∃ carriage arriving, log = [.carried carriage] ∧ carriage.arriving = .ok arriving ∧
        arriving.runtimeIds = [5] := by
  intro spawned first second player header batch result log
  have history : result.player.History none ([.adopted first, .adopted second] ++ log) :=
    (((History.start rfl).adopted first).adopted second).crossed (by decide) .client
  obtain ⟨client, carried, -⟩ := Player.history_keepsIds history
  obtain ⟨carriage, logged, direction, version, packet, mapping⟩ :
      ∃ carriage, log = [.carried carriage] ∧ carriage.direction = .serverbound ∧
        carriage.version = .v712 ∧ carriage.packet = .received header [1] ∧
        carriage.mapping = player.mapping := ⟨_, rfl, rfl, rfl, rfl, rfl⟩
  obtain ⟨-, -, -, turns⟩ := carried [.adopted first, .adopted second] carriage [] (by rw [logged])
  obtain ⟨arriving, read, -, runtimeIds, -⟩ :=
    turns (by rw [direction, packet]; rfl) (.setLocalPlayerAsInitialized ⟨1⟩)
      (by rw [packet, version]; rfl)
  rw [mapping, direction] at runtimeIds
  obtain ⟨id, _, here, nothing, ids⟩ := List.forall₂_cons_left_iff.mp runtimeIds
  obtain rfl := List.forall₂_nil_left_iff.mp nothing
  have id : id = 5 := here rfl
  exact ⟨history, (client first [second] rfl).1, carriage, arriving, logged, read, by rw [ids, id]⟩

end Ferry
