import Ferry.Proofs.Bridge.Adoption
import Ferry.Proofs.Session.ClientDirections

/-!
# What is found in the log of a batch

Each packet that a log has as carried is one of those that came, in the order in which they came,
and every packet that is due is among them: one that can be read, and that the handler does not take
out. A word that the player was spawned stands right behind the adoption of its backend.
-/

namespace Ferry

/-! ## Words that the player was spawned -/

/-- A handler that takes every word that the player was spawned out of its batch, unless it adopts
the backend with it. -/
structure Handler.Heralds {σ : Type} (handler : Handler σ)
    (spawn? : σ → Packet → Option StartGame) : Prop where
  wants : ∀ state, handler.wants state PacketId.startGame = true
  adopts : ∀ state player start,
    (handler.handle state player (.startGame start)).verdict = .cancel ∨
      spawn? state (.startGame start) = some start

/-- A backend is adopted with every word that it has spawned the player. -/
theorem Handler.backend_heralds (server : Server) :
    (Handler.backend server).Heralds fun _ => Packet.startGame? where
  wants _ := rfl
  adopts _ _ _ := .inr rfl

/-- Every such word of a new backend is taken out of its batch. -/
theorem Handler.arrival_heralds : Handler.arrival.Heralds Arrival.spawn? where
  wants arrival := by simp [Handler.arrival]
  adopts arrival player start := by
    refine .inl ?_
    unfold Handler.arrival
    dsimp only
    split <;> rfl

/-- What is read of a body of that kind is the word that the player was spawned. -/
theorem Packet.decode_startGame {version : Version} {body : Bytes} {value : Packet}
    (decoded : decode version PacketId.startGame body = .ok value) :
    ∃ start, value = .startGame start := by
  have yields : (reader version PacketId.startGame).Yields fun value =>
      ∃ start, value = .startGame start :=
    StartGame.layout_recovers.fits.map fun start _ => ⟨start, rfl⟩
  exact yields _ _ _ (decode_eq_ok_iff.mp decoded)

/-! ## Packets that are let through -/

/-- A handler that lets all packets of a sort through, for as long as something holds that none of
them ends. -/
structure Handler.LetsThrough {σ : Type} (handler : Handler σ) (holds : σ → Player → Prop)
    (lets : Packet → Bool) : Prop where
  forwards : ∀ state player value, holds state player → lets value = true →
    (handler.handle state player value).verdict = .forward
  keeps : ∀ state player value, holds state player →
    holds (handler.handle state player value).state (handler.handle state player value).player
  shows : ∀ state player scene, holds state player → holds state { player with scene := scene }

/-- Whether a packet acknowledges a change of dimension. -/
def Packet.isAnswer : Packet → Bool
  | .playerAction action => action.action = PlayerAction.dimensionChangeSuccess
  | _ => false

/-- Whether the client is not to see a packet of the backend that it is moving to: that it is sent
away, that it was spawned once more, or a radius that it does not have. -/
def Packet.isWithheld : Packet → Bool
  | .disconnect _ | .chunkRadiusUpdated _ | .startGame _ => true
  | _ => false

/-- All packets of the client are let through, except that acknowledgments are taken out during a
transfer. -/
theorem Handler.client_letsThrough (moving : Bool) :
    Handler.client.LetsThrough (fun _ player => player.transfer.isSome = moving)
      fun value => !(moving && value.isAnswer) where
  forwards _ player value holds lets := by
    cases value with
    | playerAction action =>
      simp only [← holds, Packet.isAnswer, Bool.not_eq_eq_eq_not, Bool.not_true] at lets
      unfold Handler.client
      dsimp only
      rw [Bool.and_comm, lets]
      rfl
    | _ => rfl
  keeps _ player value holds := by rw [(Handler.client_handle player value).1, holds]
  shows _ _ _ holds := holds

/-- All packets of a backend are let through, except for its word that it has sent the player
away. -/
theorem Handler.backend_letsThrough (server : Server) :
    (Handler.backend server).LetsThrough (fun _ _ => True)
      fun value => value.id ≠ PacketId.disconnect where
  forwards _ _ value _ lets := by
    cases value with
    | disconnect message => simp [Packet.id] at lets
    | _ => rfl
  keeps _ _ _ _ := trivial
  shows _ _ _ _ := trivial

/-- All packets of a new backend that has spawned the player are let through, except those that the
client is not to see. -/
theorem Handler.arrival_letsThrough :
    Handler.arrival.LetsThrough (fun arrival _ => arrival.started = true)
      fun value => !value.isWithheld where
  forwards arrival player value started lets := by
    unfold Handler.arrival
    dsimp only
    rw [if_pos started]
    cases value with
    | disconnect | chunkRadiusUpdated | startGame => cases lets
    | _ => rfl
  keeps arrival player value started :=
    (Handler.arrival_handle arrival player value).started started
  shows _ _ _ started := started

namespace Bridge

/-- Whether a packet can be read as one of a sort. -/
def isDue (version : Version) (lets : Packet → Bool) (packet : BatchPacket) : Bool :=
  match packet.decode version with
  | .ok value => lets value
  | .error _ => false

/-- A packet is due if it is read as one that is let through. -/
theorem isDue_iff {version : Version} {lets : Packet → Bool} {packet : BatchPacket} :
    isDue version lets packet = true ↔
      ∃ value, packet.decode version = .ok value ∧ lets value = true := by
  unfold isDue
  cases decoded : packet.decode version with
  | ok value => simp
  | error fault => simp

/-- The packets of a row that are due if a handler lets through all of a sort. -/
def due (version : Version) (lets : Packet → Bool) (packets : List BatchPacket) :
    List BatchPacket := packets.filter (isDue version lets)

/-- The packets that are let through of a backend that the player is moving to, once it has spawned
the player. -/
def dueOfArrival (version : Version) (arrival : Arrival) (packets : List BatchPacket) :
    List BatchPacket :=
  due version (fun value => !value.isWithheld) <|
    if arrival.started then packets
    else ((StartGame.first version packets).map Prod.snd).getD []

variable {σ : Type} {handler : Handler σ} {direction : Direction} {version : Version}
  {backend : Endpoint} {spawn? : σ → Packet → Option StartGame} {crossing : Crossing σ}
  {packet : BatchPacket} {packets : List BatchPacket} {earlier later : List Entry}
  {carriage : Carriage} {holds : σ → Player → Prop} {lets : Packet → Bool}

/-- What one packet brings: an adoption perhaps, and then the packet perhaps. It is there if the
handler lets it through. If it is, and is a word that the player was spawned, its backend is
adopted. -/
theorem entries_parts : ∃ passed : Option BatchPacket,
    entries handler direction version backend spawn? crossing packet =
      (adoption? version backend spawn? crossing.state packet).toList.map Entry.adopted ++
        passed.toList.map (fun passed => .carried ⟨backend, direction, version, packet, passed,
          (cross handler direction version crossing packet).player.mapping⟩) ∧
    (∀ value, packet.decode version = .ok value →
      (handle handler crossing.state crossing.player packet.header.id value).verdict = .forward →
      passed.isSome = true) ∧
    (passed.isSome = true → handler.Heralds spawn? → packet.decoded = none →
      packet.header.id = PacketId.startGame → ∃ start,
        packet.decode version = .ok (.startGame start) ∧
        adoption? version backend spawn? crossing.state packet = some ⟨backend, start⟩) := by
  have crosses := @cross_crosses σ handler direction version crossing packet
  generalize reached : (cross handler direction version crossing packet).passage = passage
    at crosses
  have through : (cross handler direction version crossing packet).packets = passage.2.2 := by
    rw [← reached]
    rfl
  cases crosses with
  | unread unnoticed =>
    refine ⟨some packet, by simp [entries, through], fun _ _ _ => rfl,
      fun _ heralds _ kind => ?_⟩
    rw [isNoticed, kind, heralds.wants] at unnoticed
    cases unnoticed
  | unreadable unread =>
    refine ⟨none, by simp [entries, through], fun _ decoded => ?_, fun carried => ?_⟩
    · rw [unread] at decoded
      cases decoded
    · cases carried
  | @takenOut value handled decoded same verdict =>
    refine ⟨none, by simp [entries, through], fun other again forward => ?_, fun carried => ?_⟩
    · obtain rfl := Except.ok.inj (decoded.symm.trans again)
      rw [same, forward] at verdict
      simp at verdict
    · cases carried
  | @letThrough value handled decoded same verdict =>
    refine ⟨some _, by simp [entries, through]; rfl, fun _ _ _ => rfl,
      fun _ heralds received kind => ?_⟩
    have read := decoded
    rw [BatchPacket.decode, received, kind] at read
    obtain ⟨start, rfl⟩ := Packet.decode_startGame read
    refine ⟨start, decoded, ?_⟩
    rw [kind, handle, if_pos (heralds.wants _)] at same
    rcases heralds.adopts crossing.state crossing.player start with canceled | spawned
    · rw [same, canceled] at verdict
      simp at verdict
    · simp [adoption?, decoded, spawned]

/-- The one packet that is carried stands behind what was adopted with it. -/
theorem entries_carried (split : entries handler direction version backend spawn? crossing packet =
      earlier ++ .carried carriage :: later) :
    carriage.packet = packet ∧ carriage.direction = direction ∧ carriage.version = version ∧
      (handler.Heralds spawn? → packet.decoded = none → packet.header.id = PacketId.startGame →
        ∃ start, packet.decode version = .ok (.startGame start) ∧
          earlier = [.adopted ⟨backend, start⟩]) := by
  obtain ⟨passed, parts, -, heralded⟩ := @entries_parts σ handler direction version backend spawn?
    crossing packet
  rw [parts] at split
  rcases append_eq_append_cons.mp split with ⟨front, rfl, alone⟩ | ⟨back, adopted, -⟩
  · cases passed with
    | none => simp at alone
    | some passed =>
      obtain rfl : front = [] := by
        cases front <;> simp_all
      obtain ⟨rfl, -⟩ : _ = carriage ∧ later = [] := by simpa [eq_comm] using alone
      refine ⟨rfl, rfl, rfl, fun heralds received kind => ?_⟩
      obtain ⟨start, decoded, adopted⟩ := heralded rfl heralds received kind
      exact ⟨start, decoded, by simp [adopted]⟩
  · have mem : Entry.carried carriage ∈ (adoption? version backend spawn? crossing.state
        packet).toList.map Entry.adopted := by simp [adopted]
    simp at mem

/-- Each packet that a log has as carried is one of those that have crossed; and a word that the
player was spawned stands right behind the adoption of its backend. -/
theorem logFrom_carried (split : logFrom handler direction version backend spawn? crossing packets =
      earlier ++ .carried carriage :: later) :
    carriage.packet ∈ packets ∧ carriage.direction = direction ∧ carriage.version = version ∧
      (handler.Heralds spawn? → (∀ packet ∈ packets, packet.decoded = none) →
        carriage.packet.header.id = PacketId.startGame → ∃ before start,
          carriage.packet.decode version = .ok (.startGame start) ∧
          earlier = before ++ [.adopted ⟨backend, start⟩]) := by
  induction packets generalizing crossing earlier with
  | nil => simp [logFrom] at split
  | cons packet packets ih =>
    rw [logFrom] at split
    rcases append_eq_append_cons.mp split with ⟨front, rfl, rest⟩ | ⟨back, here, -⟩
    · obtain ⟨mem, way, same, adopts⟩ := ih rest
      refine ⟨List.mem_cons_of_mem _ mem, way, same, fun heralds received kind => ?_⟩
      obtain ⟨before, start, decoded, rfl⟩ :=
        adopts heralds (fun other mem => received other (List.mem_cons_of_mem _ mem)) kind
      exact ⟨_, start, decoded, (List.append_assoc ..).symm⟩
    · obtain ⟨rfl, way, same, adopts⟩ := entries_carried here
      refine ⟨List.mem_cons_self .., way, same, fun heralds received kind => ?_⟩
      obtain ⟨start, decoded, rfl⟩ := adopts heralds (received _ (List.mem_cons_self ..)) kind
      exact ⟨[], start, decoded, rfl⟩

/-- What one packet brings carries that packet at most. -/
theorem entries_sublist :
    ((carriages (entries handler direction version backend spawn? crossing packet)).map
      Carriage.packet).Sublist [packet] := by
  obtain ⟨passed, parts, -⟩ := @entries_parts σ handler direction version backend spawn? crossing
    packet
  rw [parts, carriages_append, carriages_adopted]
  cases passed with
  | none => exact List.nil_sublist _
  | some passed => exact List.Sublist.refl _

/-- It does carry the packet if it is due. -/
theorem entries_due (through : handler.LetsThrough holds lets)
    (now : holds crossing.state crossing.player) :
    (due version lets [packet]).Sublist
      ((carriages (entries handler direction version backend spawn? crossing packet)).map
        Carriage.packet) := by
  obtain ⟨passed, parts, carried, -⟩ := @entries_parts σ handler direction version backend spawn?
    crossing packet
  by_cases isDue : isDue version lets packet = true
  · obtain ⟨value, decoded, spared⟩ := isDue_iff.mp isDue
    have forward : (handle handler crossing.state crossing.player packet.header.id
        value).verdict = .forward := by
      unfold handle
      split
      · exact through.forwards _ _ _ now spared
      · rfl
    obtain ⟨passed, rfl⟩ := Option.isSome_iff_exists.mp (carried value decoded forward)
    rw [due, List.filter_cons_of_pos isDue, parts, carriages_append, carriages_adopted]
    exact List.Sublist.refl _
  · rw [due, List.filter_cons_of_neg isDue]
    exact List.nil_sublist _

/-- Nothing is carried but what has come, in the same order. -/
theorem logFrom_sublist :
    ((carriages (logFrom handler direction version backend spawn? crossing packets)).map
      Carriage.packet).Sublist packets := by
  induction packets generalizing crossing with
  | nil => exact List.nil_sublist _
  | cons packet packets ih =>
    rw [logFrom, carriages_append, List.map_append]
    exact entries_sublist.append ih

/-- Everything is carried that is due. -/
theorem logFrom_due (through : handler.LetsThrough holds lets)
    (now : holds crossing.state crossing.player) :
    (due version lets packets).Sublist
      ((carriages (logFrom handler direction version backend spawn? crossing packets)).map
        Carriage.packet) := by
  induction packets generalizing crossing with
  | nil => exact List.nil_sublist _
  | cons packet packets ih =>
    have next : holds (cross handler direction version crossing packet).state
        (cross handler direction version crossing packet).player :=
      cross_keeps (fun state player _ => holds state player) (fun _ _ _ _ => through.keeps _ _ _)
        (fun _ _ _ _ => through.shows _ _ _) now
    have parted : due version lets (packet :: packets) =
        due version lets [packet] ++ due version lets packets :=
      List.filter_append [packet] packets
    rw [parted, logFrom, carriages_append, List.map_append]
    exact (entries_due through now).append (ih next)

/-- Once a backend has spawned the player that is moving to it, what is due of it is carried. -/
theorem logFrom_dueOfArrival {crossing : Crossing Arrival} {arrival : Arrival}
    (now : crossing.state = arrival) :
    (dueOfArrival version arrival packets).Sublist
      ((carriages (logFrom Handler.arrival .clientbound version backend Arrival.spawn? crossing
        packets)).map Carriage.packet) := by
  subst now
  cases started : crossing.state.started with
  | true =>
    rw [dueOfArrival, if_pos started]
    exact logFrom_due Handler.arrival_letsThrough started
  | false =>
    rw [dueOfArrival, if_neg (by simp [started])]
    induction packets generalizing crossing with
    | nil => exact List.nil_sublist _
    | cons packet packets ih =>
      have step := @cross_login version crossing packet started
      rw [logFrom, carriages_append, List.map_append]
      refine List.Sublist.trans ?_ (List.sublist_append_right _ _)
      simp only [StartGame.first]
      split at step
      next start decoded =>
        exact logFrom_due Handler.arrival_letsThrough
          (congrArg (fun passage => passage.1.started) step)
      next => exact ih ((congrArg (fun passage => passage.1.started) step).trans started)

end Bridge

end Ferry
