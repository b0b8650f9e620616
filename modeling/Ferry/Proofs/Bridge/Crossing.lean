import Ferry.Proofs.Transfer.Acknowledgment

/-!
# What becomes of the packets that cross

A packet that crosses is passed over unread, or is taken out, or is let through in the terms of
the other side, and then it is recorded if it shows something. Whatever a handler does to a packet
that it lets through, its kind stays the same.
-/

namespace Ferry

section Carried

variable {mapping : Mapping} {direction : Direction} {packet : Packet}

/-- A packet is of the same kind on the other side. -/
@[simp] theorem Mapping.packet_id : (mapping.packet direction packet).id = packet.id := by
  cases packet with
  | levelChunk chunk => cases direction <;> rfl
  | subChunk chunk => cases direction <;> rfl
  | _ => rfl

end Carried

/-- A packet that was received is of the kind that its header names. -/
theorem BatchPacket.id_of_decode {version : Version} {packet : BatchPacket} {value : Packet}
    (received : packet.decoded = none) (decoded : packet.decode version = .ok value) :
    value.id = packet.header.id := by
  unfold BatchPacket.decode at decoded
  rw [received] at decoded
  exact Packet.decode_id decoded

namespace Bridge

variable {σ : Type} {handler : Handler σ} {direction : Direction} {version : Version}
  {state : σ} {player : Player} {batch : Batch}

/-- What becomes of one packet: where it leaves the handler and the player, and the packets that
have been let through. -/
inductive Crosses (handler : Handler σ) (direction : Direction) (version : Version)
    (crossing : Crossing σ) (packet : BatchPacket) : σ × Player × List BatchPacket → Prop
  /-- Nobody cares about the packet. -/
  | unread
      (unnoticed : isNoticed handler direction crossing.state crossing.player packet.header.id =
        false) :
      Crosses handler direction version crossing packet
        (crossing.state, crossing.player, crossing.packets ++ [packet])
  | unreadable {fault : DecodeError} (decoded : packet.decode version = .error fault) :
      Crosses handler direction version crossing packet
        (crossing.state, crossing.player, crossing.packets)
  | takenOut {value : Packet} {handled : Handled σ} (decoded : packet.decode version = .ok value)
      (same : handled = handle handler crossing.state crossing.player packet.header.id value)
      (verdict : handled.verdict = .cancel ∨ handled.verdict = .fail) :
      Crosses handler direction version crossing packet
        (handled.state, handled.player, crossing.packets)
  | letThrough {value : Packet} {handled : Handled σ} (decoded : packet.decode version = .ok value)
      (same : handled = handle handler crossing.state crossing.player packet.header.id value)
      (verdict : handled.verdict = .forward ∨ handled.verdict = .modified) :
      Crosses handler direction version crossing packet
        (handled.state, (passOn direction packet handled).2,
          crossing.packets ++ [(passOn direction packet handled).1])

/-- A packet crosses in one of these ways. -/
theorem cross_crosses (crossing : Crossing σ) (packet : BatchPacket) :
    Crosses handler direction version crossing packet
      (cross handler direction version crossing packet).passage := by
  unfold cross Crossing.passage
  dsimp only
  split
  next noticed =>
    cases decoded : packet.decode version with
    | error fault => exact .unreadable decoded
    | ok value =>
      dsimp only
      cases verdict : (handle handler crossing.state crossing.player packet.header.id
          value).verdict with
      | cancel => exact .takenOut decoded rfl (.inl verdict)
      | fail => exact .takenOut decoded rfl (.inr verdict)
      | forward => exact .letThrough decoded rfl (.inl verdict)
      | modified => exact .letThrough decoded rfl (.inr verdict)
  next unnoticed => exact .unread (by simpa using unnoticed)

/-- What each packet keeps, whatever becomes of it, a batch keeps. -/
theorem process_tracks (inv : σ × Player × List BatchPacket → Prop)
    (step : ∀ crossing : Crossing σ, ∀ packet ∈ batch.packets, inv crossing.passage →
      ∀ passage, Crosses handler direction version crossing packet passage → inv passage)
    (holds : inv (state, player, [])) :
    inv ((process handler direction version state player batch).state,
      (process handler direction version state player batch).player,
      (process handler direction version state player batch).batch.packets) := by
  have kept : ∀ (packets : List BatchPacket) (crossing : Crossing σ),
      (∀ packet ∈ packets, packet ∈ batch.packets) → inv crossing.passage →
      inv (packets.foldl (cross handler direction version) crossing).passage := by
    intro packets
    induction packets with
    | nil => exact fun _ _ here => here
    | cons packet packets ih =>
      intro crossing among here
      obtain ⟨first, others⟩ := List.forall_mem_cons.mp among
      exact ih _ others (step crossing packet first here _ (cross_crosses crossing packet))
  rw [process_packets]
  exact kept batch.packets ⟨state, player, [], BridgeReport.zero, []⟩ (fun _ => id) holds

/-- A handler that changes no packet leaves each as it is, wanted or not. -/
theorem handle_unchanged
    (unchanged : ∀ state player value, (handler.handle state player value).packet = value)
    (id : PacketId) (value : Packet) : (handle handler state player id value).packet = value := by
  unfold handle
  split
  · exact unchanged _ _ _
  · rfl

/-- What is passed on is the packet as it is on the other side, read. -/
theorem passOn_packet (packet : BatchPacket) (handled : Handled σ) :
    ∃ value, (value = handled.packet ∨
        value = handled.player.mapping.packet direction handled.packet) ∧
      (passOn direction packet handled).1.header = packet.header ∧
      (passOn direction packet handled).1.decoded = some value ∧
      (passOn direction packet handled).2 =
        if records direction packet.header.id then
          { handled.player with scene := handled.player.scene.observe value }
        else handled.player := by
  refine ⟨_, ?_, rfl, rfl, rfl⟩
  split
  · exact .inr rfl
  · exact .inl rfl

/-- With a handler that changes no packet, what holds of packets left unread, and of those that are
passed on as they were read, holds of all that are kept. -/
theorem process_all (property : BatchPacket → Prop)
    (unchanged : ∀ state player value, (handler.handle state player value).packet = value)
    (unread : ∀ packet ∈ batch.packets, property packet)
    (passed : ∀ packet ∈ batch.packets, ∀ (value : Packet) (handled : Handled σ),
      packet.decode version = .ok value → handled.packet = value →
        property (passOn direction packet handled).1) :
    ∀ packet ∈ (process handler direction version state player batch).batch.packets,
      property packet := by
  refine process_tracks (fun passage => ∀ packet ∈ passage.2.2, property packet) ?_ (by simp)
  intro crossing packet mem here passage crosses
  cases crosses with
  | unread =>
    exact List.forall_mem_append.mpr ⟨here, List.forall_mem_singleton.mpr (unread packet mem)⟩
  | unreadable => exact here
  | takenOut => exact here
  | @letThrough value handled decoded same =>
    have kept : handled.packet = value := by
      rw [same]
      exact handle_unchanged unchanged _ _
    exact List.forall_mem_append.mpr
      ⟨here, List.forall_mem_singleton.mpr (passed packet mem value handled decoded kept)⟩

end Bridge

/-! ## The kinds of packets -/

/-- A packet that is, however it is read, of the kind that its header names. -/
def BatchPacket.IsGenuine (packet : BatchPacket) : Prop :=
  ∀ version value, packet.decode version = .ok value → value.id = packet.header.id

/-- A received packet that is passed on stays of the kind that its header names. -/
theorem Bridge.process_genuine {σ : Type} {handler : Handler σ} {direction : Direction}
    {version : Version} {state : σ} {player : Player} {batch : Batch}
    (unchanged : ∀ state player value, (handler.handle state player value).packet = value)
    (received : ∀ packet ∈ batch.packets, packet.decoded = none) :
    ∀ packet ∈ (process handler direction version state player batch).batch.packets,
      packet.IsGenuine := by
  refine process_all BatchPacket.IsGenuine unchanged ?_ ?_
  · exact fun packet mem _ _ decoded => BatchPacket.id_of_decode (received packet mem) decoded
  · intro packet mem value handled decoded kept
    obtain ⟨passed, carried, header, read, -⟩ := @passOn_packet σ direction packet handled
    have id : passed.id = value.id := by
      rw [kept] at carried
      rcases carried with rfl | rfl
      · rfl
      · exact Mapping.packet_id
    intro reader other again
    unfold BatchPacket.decode at again
    rw [read] at again
    cases again
    rw [header, id]
    exact BatchPacket.id_of_decode (received packet mem) decoded

/-! ## The handlers -/

/-- No packet of the client is changed by its handler. -/
theorem Handler.client_unchanged (player : Player) (value : Packet) :
    (Handler.client.handle () player value).packet = value := by
  unfold Handler.client
  dsimp only
  split
  · split <;> rfl
  · rfl
  · rfl

/-- No packet of a backend is changed by its handler. -/
theorem Handler.backend_unchanged (server : Server) (player : Player) (value : Packet) :
    ((Handler.backend server).handle () player value).packet = value := by
  cases value <;> rfl

/-- No packet of a new backend is changed by its handler. -/
theorem Handler.arrival_unchanged (arrival : Arrival) (player : Player) (value : Packet) :
    (Handler.arrival.handle arrival player value).packet = value := by
  unfold Handler.arrival
  dsimp only
  split
  · cases value <;> rfl
  · unfold Arrival.handleLogin
    cases value with
    | playStatus status =>
      dsimp only
      split <;> rfl
    | _ => rfl

end Ferry
