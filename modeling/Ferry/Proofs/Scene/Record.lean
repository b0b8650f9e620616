import Ferry.Proofs.Bridge.Crossing

/-!
# What is recorded of what the client shows

An entity that a backend has shown to the client stays there until the client is told that it is
gone. The proxy keeps a record of these entities, so that it can take them from the client when the
player moves on. Whatever a batch shows to the client is recorded when it is bridged.
-/

namespace Ferry

/-- The entity that a packet shows. -/
def Packet.shown? : Packet → Option Int64
  | .addPlayer packet => some packet.uniqueId
  | .addEntity packet => some packet.uniqueId
  | .addItemEntity packet => some packet.uniqueId
  | _ => none

/-- The entity that a packet takes away. -/
def Packet.removed? : Packet → Option Int64
  | .removeEntity packet => some packet.uniqueId
  | _ => none

namespace BatchPacket

/-- Whether the proxy has made a packet itself. -/
def isMade (packet : BatchPacket) : Bool := packet.decoded.any fun value => packet = made value

/-- Whether a packet that a backend has sent shows an entity. -/
def shows (version : Version) (uniqueId : Int64) (packet : BatchPacket) : Bool :=
  match packet.decode version with
  | .ok value => !packet.isMade && value.shown? = some uniqueId
  | .error _ => false

/-- Whether a packet takes an entity away, whoever has sent it. -/
def removes (version : Version) (uniqueId : Int64) (packet : BatchPacket) : Bool :=
  match packet.decode version with
  | .ok value => value.removed? = some uniqueId
  | .error _ => false

end BatchPacket

/-- Whether a client that has heard some packets shows an entity: a backend has shown it, and
nobody has taken it away since. -/
def isLive (version : Version) (uniqueId : Int64) : List BatchPacket → Bool
  | [] => false
  | packet :: later =>
    (packet.shows version uniqueId && !later.any (BatchPacket.removes version uniqueId)) ||
      isLive version uniqueId later

/-- Whether a record of what the client shows covers all that it shows after some packets. -/
def Scene.Covers (scene : Scene) (version : Version) (heard : List BatchPacket) : Prop :=
  ∀ uniqueId, isLive version uniqueId heard = true → uniqueId ∈ scene.entities

/-- Whether a client that has heard some packets shows no entity. -/
def ShowsNothing (version : Version) (heard : List BatchPacket) : Prop :=
  ∀ uniqueId, isLive version uniqueId heard = false

section Live

variable {version : Version} {uniqueId : Int64} {packet : BatchPacket}
  {first second heard : List BatchPacket} {scene : Scene}

/-- What is shown in the end was shown last, or was shown before and not taken away. -/
theorem isLive_append : isLive version uniqueId (first ++ second) =
    (isLive version uniqueId second ||
      (isLive version uniqueId first && !second.any (BatchPacket.removes version uniqueId))) := by
  induction first with
  | nil => simp [isLive]
  | cons packet first ih =>
    simp only [List.cons_append, isLive, ih, List.any_append]
    cases packet.shows version uniqueId <;>
      cases first.any (BatchPacket.removes version uniqueId) <;>
      cases second.any (BatchPacket.removes version uniqueId) <;>
      cases isLive version uniqueId first <;> cases isLive version uniqueId second <;> rfl

/-- A single packet leaves shown what it shows. -/
theorem isLive_singleton :
    isLive version uniqueId [packet] = packet.shows version uniqueId := by
  simp [isLive]

/-- The proxy does not show anything itself. -/
theorem BatchPacket.IsMade.shows (own : packet.IsMade) : packet.shows version uniqueId = false := by
  obtain ⟨value, rfl⟩ := own
  have own : (made value).isMade = true := by simp [isMade, made]
  unfold BatchPacket.shows
  split
  · simp [own]
  · rfl

/-- What the proxy makes shows nothing. -/
theorem AllMade.showsNothing (own : AllMade heard) : ShowsNothing version heard := by
  intro uniqueId
  induction heard with
  | nil => rfl
  | cons packet heard ih =>
    obtain ⟨first, others⟩ := List.forall_mem_cons.mp own
    simp [isLive, first.shows, ih others]

/-- Where nothing is shown, every record covers it. -/
theorem ShowsNothing.covers (nothing : ShowsNothing version heard) :
    scene.Covers version heard := by
  intro uniqueId live
  cases (nothing uniqueId).symm.trans live

/-- Packets that show nothing show nothing together. -/
theorem ShowsNothing.append (nothing : ShowsNothing version first)
    (further : ShowsNothing version second) : ShowsNothing version (first ++ second) := by
  intro uniqueId
  rw [isLive_append, nothing uniqueId, further uniqueId]
  rfl

/-- Packets of the proxy leave the record as good as it was. -/
theorem Scene.Covers.append (covers : scene.Covers version first)
    (nothing : ShowsNothing version second) : scene.Covers version (first ++ second) := by
  intro uniqueId live
  rw [isLive_append, nothing uniqueId, Bool.false_or, Bool.and_eq_true] at live
  exact covers uniqueId live.1

/-- What came before does not matter if nothing of it is shown. -/
theorem Scene.Covers.behind (covers : scene.Covers version second)
    (nothing : ShowsNothing version first) : scene.Covers version (first ++ second) := by
  intro uniqueId live
  rw [isLive_append, nothing uniqueId, Bool.false_and, Bool.or_false] at live
  exact covers uniqueId live

/-- What is recorded after a packet: what it shows, and what was recorded before and is not taken
away. -/
theorem Scene.mem_observe {value : Packet} : uniqueId ∈ (scene.observe value).entities ↔
    value.shown? = some uniqueId ∨
      (uniqueId ∈ scene.entities ∧ value.removed? ≠ some uniqueId) := by
  cases value with
  | addPlayer packet => simp [observe, Packet.shown?, Packet.removed?, @eq_comm _ uniqueId]
  | addEntity packet => simp [observe, Packet.shown?, Packet.removed?, @eq_comm _ uniqueId]
  | addItemEntity packet => simp [observe, Packet.shown?, Packet.removed?, @eq_comm _ uniqueId]
  | removeEntity packet => simp [observe, Packet.shown?, Packet.removed?, @eq_comm _ uniqueId]
  | playerList change => cases change <;> simp [observe, Packet.shown?, Packet.removed?]
  | setEntityLink packet =>
    simp only [observe, Packet.shown?, Packet.removed?]
    split <;> simp
  | _ => simp [observe, Packet.shown?, Packet.removed?]

/-- The record after a packet that the client hears. -/
theorem Scene.Covers.observe {value : Packet} (covers : scene.Covers version heard)
    (decoded : packet.decoded = some value) :
    (scene.observe value).Covers version (heard ++ [packet]) := by
  have read : packet.decode version = .ok value := by simp [BatchPacket.decode, decoded]
  intro uniqueId live
  rw [isLive_append, isLive_singleton, List.any_cons, List.any_nil, Bool.or_false] at live
  simp only [BatchPacket.shows, BatchPacket.removes, read, Bool.or_eq_true, Bool.and_eq_true,
    Bool.not_eq_true', decide_eq_true_eq, decide_eq_false_iff_not] at live
  rw [Scene.mem_observe]
  rcases live with ⟨-, shown⟩ | ⟨before, stays⟩
  · exact .inl shown
  · exact .inr ⟨covers uniqueId before, stays⟩

/-- A packet shows nothing that is not recorded. -/
theorem Packet.shown?_of_id {value : Packet} (id : value.id ∉ Scene.packets) :
    value.shown? = none := by
  cases value with
  | addPlayer => exact absurd (show PacketId.addPlayer ∈ Scene.packets by decide) id
  | addEntity => exact absurd (show PacketId.addEntity ∈ Scene.packets by decide) id
  | addItemEntity => exact absurd (show PacketId.addItemEntity ∈ Scene.packets by decide) id
  | _ => rfl

/-- A packet takes nothing away that is not recorded. -/
theorem Packet.removed?_of_id {value : Packet} (id : value.id ∉ Scene.packets) :
    value.removed? = none := by
  cases value with
  | removeEntity => exact absurd (show PacketId.removeEntity ∈ Scene.packets by decide) id
  | _ => rfl

/-- A packet of no kind that is recorded shows nothing. -/
theorem BatchPacket.IsGenuine.showsNothing (genuine : packet.IsGenuine)
    (id : packet.header.id ∉ Scene.packets) : ShowsNothing version [packet] := by
  intro uniqueId
  rw [isLive_singleton]
  unfold BatchPacket.shows
  split
  next value decoded =>
    rw [Packet.shown?_of_id (genuine version value decoded ▸ id)]
    simp
  next => rfl

/-- A packet of no kind that is recorded takes nothing away. -/
theorem BatchPacket.IsGenuine.removes (genuine : packet.IsGenuine)
    (id : packet.header.id ∉ Scene.packets) : packet.removes version uniqueId = false := by
  unfold BatchPacket.removes
  split
  next value decoded =>
    rw [Packet.removed?_of_id (genuine version value decoded ▸ id)]
    rfl
  next => rfl

/-- The record covers what is shown in the end, whatever came before. -/
theorem Scene.Covers.last (covers : scene.Covers version (first ++ second)) :
    scene.Covers version second := by
  intro uniqueId live
  refine covers uniqueId ?_
  rw [isLive_append, live]
  rfl

/-- The entities that are taken from the client are those that are recorded. -/
theorem Scene.removes_teardown (mem : uniqueId ∈ scene.entities) :
    (scene.teardown.map BatchPacket.made).any (BatchPacket.removes version uniqueId) = true := by
  refine List.any_eq_true.mpr
    ⟨.made (.removeEntity ⟨uniqueId⟩), List.mem_map.mpr ⟨_, ?_, rfl⟩, ?_⟩
  · unfold teardown
    refine List.mem_append_left _ (List.mem_append_right _ (List.mem_map.mpr ⟨uniqueId, ?_, rfl⟩))
    exact List.mem_mergeSort.mpr mem
  · simp [BatchPacket.removes, BatchPacket.decode, BatchPacket.made, Packet.removed?]

/-- A client from which all that is recorded is taken shows nothing any more. -/
theorem Scene.Covers.tornDown (covers : scene.Covers version heard) (more : List Packet) :
    ShowsNothing version (heard ++ (scene.teardown ++ more).map BatchPacket.made) := by
  intro uniqueId
  rw [isLive_append, allMade_map_made.showsNothing uniqueId, Bool.false_or]
  cases live : isLive version uniqueId heard with
  | false => rfl
  | true =>
    rw [List.map_append, List.any_append, Scene.removes_teardown (covers uniqueId live)]
    rfl

end Live

/-- Events that are only seen show nothing and take nothing away. -/
theorem not_mem_of_isDropped {packet : BatchPacket} (dropped : Waiting.isDropped packet = true) :
    packet.header.id ∉ Scene.packets := by
  have kind : packet.header.id = PacketId.levelEventGeneric := by
    simpa [Waiting.isDropped] using dropped
  rw [kind]
  decide

section Undropped

variable {version : Version} {uniqueId : Int64} {packets : List BatchPacket}

/-- The events that are dropped take nothing away. -/
theorem removes_undropped (genuine : ∀ packet ∈ packets, packet.IsGenuine) :
    (packets.filter fun packet => !Waiting.isDropped packet).any
        (BatchPacket.removes version uniqueId) =
      packets.any (BatchPacket.removes version uniqueId) := by
  rw [Bool.eq_iff_iff, List.any_eq_true, List.any_eq_true]
  constructor
  · rintro ⟨packet, mem, removes⟩
    exact ⟨packet, (List.mem_filter.mp mem).1, removes⟩
  · rintro ⟨packet, mem, removes⟩
    refine ⟨packet, List.mem_filter.mpr ⟨mem, ?_⟩, removes⟩
    cases dropped : Waiting.isDropped packet with
    | false => rfl
    | true =>
      have nothing : packet.removes version uniqueId = false :=
        (genuine packet mem).removes (not_mem_of_isDropped dropped)
      cases nothing.symm.trans removes

/-- The events that are dropped show nothing and take nothing away. -/
theorem isLive_undropped (genuine : ∀ packet ∈ packets, packet.IsGenuine) :
    isLive version uniqueId (packets.filter fun packet => !Waiting.isDropped packet) =
      isLive version uniqueId packets := by
  induction packets with
  | nil => rfl
  | cons packet packets ih =>
    obtain ⟨here, others⟩ := List.forall_mem_cons.mp genuine
    cases dropped : Waiting.isDropped packet with
    | false =>
      rw [List.filter_cons_of_pos (by simp [dropped]), isLive, isLive, ih others,
        removes_undropped others]
    | true =>
      have unshown : isLive version uniqueId [packet] = false :=
        here.showsNothing (not_mem_of_isDropped dropped) uniqueId
      rw [isLive_singleton] at unshown
      rw [List.filter_cons_of_neg (by simp [dropped]), isLive, unshown, ih others]
      rfl

/-- What is recorded of some packets covers those that are not dropped. -/
theorem Scene.Covers.undropped {scene : Scene} {heard : List BatchPacket}
    (covers : scene.Covers version (heard ++ packets))
    (genuine : ∀ packet ∈ packets, packet.IsGenuine) :
    scene.Covers version (heard ++ packets.filter fun packet => !Waiting.isDropped packet) := by
  intro uniqueId live
  refine covers uniqueId ?_
  rw [isLive_append, isLive_undropped genuine, removes_undropped genuine] at live
  rw [isLive_append]
  exact live

end Undropped

/-! ## Bridging -/

namespace Bridge

variable {σ : Type} {handler : Handler σ} {version reader : Version} {state : σ}
  {player : Player} {batch : Batch}

/-- What need not be recorded is of no kind that is. -/
theorem not_mem_of_records {id : PacketId} (unrecorded : records .clientbound id = false) :
    id ∉ Scene.packets := by
  simpa [records] using unrecorded

/-- What is passed on to the client is recorded. -/
theorem passOn_covers {packet : BatchPacket} {handled : Handled σ} {heard : List BatchPacket}
    (same : handled.packet.id = packet.header.id)
    (covers : handled.player.scene.Covers reader heard) :
    (passOn .clientbound packet handled).2.scene.Covers reader
      (heard ++ [(passOn .clientbound packet handled).1]) := by
  obtain ⟨value, carried, header, decoded, player⟩ := @passOn_packet σ .clientbound packet handled
  rw [player]
  split
  next => exact covers.observe decoded
  next unrecorded =>
    refine covers.append (BatchPacket.IsGenuine.showsNothing ?_ ?_)
    · intro reader other read
      unfold BatchPacket.decode at read
      rw [decoded] at read
      cases read
      rw [header, ← same]
      rcases carried with rfl | rfl
      · rfl
      · exact Mapping.packet_id
    · rw [header]
      exact not_mem_of_records (by simpa using unrecorded)

/-- What a batch shows to the client is recorded, if the handler changes neither its packets nor
the record. -/
theorem process_covers {good : σ → Prop} {heard : List BatchPacket}
    (kept : ∀ state player id value, good state → value.id = id →
      let handled := handle handler state player id value
      handled.packet = value ∧ good handled.state ∧ handled.player.scene = player.scene)
    (holds : good state) (received : ∀ packet ∈ batch.packets, packet.decoded = none)
    (covers : player.scene.Covers reader heard) :
    let result := process handler .clientbound version state player batch
    result.player.scene.Covers reader (heard ++ result.batch.packets) := by
  let inv (passage : σ × Player × List BatchPacket) : Prop :=
    good passage.1 ∧ passage.2.1.scene.Covers reader (heard ++ passage.2.2)
  have start : inv (state, player, []) := ⟨holds, by rw [List.append_nil]; exact covers⟩
  refine (process_tracks inv ?_ start).2
  intro crossing packet mem here passage crosses
  obtain ⟨good, covered⟩ : good crossing.state ∧
    crossing.player.scene.Covers reader (heard ++ crossing.packets) := here
  have id {value : Packet} (decoded : packet.decode version = .ok value) :
      value.id = packet.header.id := BatchPacket.id_of_decode (received packet mem) decoded
  cases crosses with
  | unread unnoticed =>
    refine ⟨good, ?_⟩
    rw [← List.append_assoc]
    refine covered.append (BatchPacket.IsGenuine.showsNothing ?_ (not_mem_of_records ?_))
    · exact fun _ _ decoded => BatchPacket.id_of_decode (received packet mem) decoded
    · simp only [isNoticed, Bool.or_eq_false_iff] at unnoticed
      exact unnoticed.2
  | unreadable => exact ⟨good, covered⟩
  | takenOut decoded same =>
    obtain ⟨-, still, scene⟩ := kept crossing.state crossing.player _ _ good (id decoded)
    rw [← same] at still scene
    exact ⟨still, by rw [scene]; exact covered⟩
  | letThrough decoded same =>
    obtain ⟨unchanged, still, scene⟩ := kept crossing.state crossing.player _ _ good (id decoded)
    rw [← same] at unchanged still scene
    refine ⟨still, ?_⟩
    rw [← List.append_assoc]
    exact passOn_covers (by rw [unchanged]; exact id decoded) (by rw [scene]; exact covered)

end Bridge

end Ferry
