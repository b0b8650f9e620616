import Ferry.Proofs.Mapping.Unconcerned
import Mathlib.Logic.Equiv.Basic

/-!
# The player's ids change places

The player has one id on the client and one on its backend, and in every packet the two change
places, whichever way it goes. So no two entities come to have one id: another entity that has the
client's id for the player goes by the backend's, and has its own again on the way back. Where
nothing but ids is numbered differently, a packet that goes there and back, or the same way twice,
is what it was.
-/

namespace Ferry.Mapping

variable {mapping : Mapping} {direction : Direction}

/-- The exchange of two ids is the swap of them. -/
theorem swap_eq {ι : Type} [DecidableEq ι] (client backend : ι) :
    swap client backend = Equiv.swap backend client := by
  funext id
  rw [Equiv.swap_apply_def, swap]

/-- A mapping swaps the player's two runtime ids. -/
theorem runtimeId_eq_swap (mapping : Mapping) :
    mapping.runtimeId = Equiv.swap mapping.backend.runtimeId mapping.client.runtimeId :=
  swap_eq _ _

/-- A mapping swaps the player's two unique ids. -/
theorem uniqueId_eq_swap (mapping : Mapping) :
    mapping.uniqueId = Equiv.swap mapping.backend.uniqueId mapping.client.uniqueId :=
  swap_eq _ _

/-- A runtime id that is rewritten twice is itself again. -/
theorem runtimeId_runtimeId (id : UInt64) : mapping.runtimeId (mapping.runtimeId id) = id := by
  rw [runtimeId_eq_swap, Equiv.swap_apply_self]

/-- A unique id that is rewritten twice is itself again. -/
theorem uniqueId_uniqueId (id : Int64) : mapping.uniqueId (mapping.uniqueId id) = id := by
  rw [uniqueId_eq_swap, Equiv.swap_apply_self]

/-- Where both sides number blocks and items alike, a packet that is put into the terms of another
side twice is what it was. -/
theorem packet_packet (blocks : mapping.blocks.isIdentity = true)
    (items : mapping.items.isIdentity = true) (there back : Direction) (packet : Packet) :
    mapping.packet back (mapping.packet there packet) = packet := by
  cases packet with
  | startGame packet | removeEntity packet | moveEntityAbsolute packet | movePlayer packet
  | entityEvent packet | playerAction packet | setEntityData packet | setEntityMotion packet
  | setEntityLink packet | setLocalPlayerAsInitialized packet =>
    simp [Mapping.packet, runtimeId_runtimeId, uniqueId_uniqueId]
  | addPlayer packet | addItemEntity packet | mobEquipment packet =>
    simp [Mapping.packet, runtimeId_runtimeId, uniqueId_uniqueId, item_same blocks items]
  | addEntity packet =>
    simp [Mapping.packet, runtimeId_runtimeId, uniqueId_uniqueId, fallingBlock_same blocks]
  | inventoryContent packet => simp [Mapping.packet, List.map_id'' (item_same blocks items)]
  | inventorySlot packet => simp [Mapping.packet, item_same blocks items]
  | updateBlock packet => simp [Mapping.packet, block_same blocks]
  | levelEvent packet => simp [Mapping.packet, eventData_same blocks]
  | levelSoundEvent packet => simp [Mapping.packet, signedBlock_same blocks]
  | levelChunk packet =>
    cases there <;> cases back <;> simp [Mapping.packet, levelChunk_same blocks]
  | subChunk packet => cases there <;> cases back <;> simp [Mapping.packet, subChunk_same blocks]
  | _ => rfl

/-- Ids in the same or in different places of packets are the same on the other side if and only if
they are the same here. -/
theorem getElem?_map_swap {ι : Type} [DecidableEq ι] (one other : ι) (ids others : List ι)
    (here there : Nat) :
    (ids.map (Equiv.swap one other))[here]? = (others.map (Equiv.swap one other))[there]? ↔
      ids[here]? = others[there]? := by
  rw [List.getElem?_map, List.getElem?_map]
  exact (Option.map_injective (Equiv.swap one other).injective).eq_iff

/-- In every packet and whichever way it goes, the client's id for the player and the backend's
change places, and all other ids stay. So no two ids of a kind become the same, those of the player
included, and where blocks and items are numbered alike on both sides a packet is restored by
putting it into the terms of another side once more. -/
theorem packet_swaps_ids (mapping : Mapping) :
    (∀ direction packet,
      (mapping.packet direction packet).runtimeIds = packet.runtimeIds.map
        (Equiv.swap mapping.backend.runtimeId mapping.client.runtimeId) ∧
      (mapping.packet direction packet).uniqueIds = packet.uniqueIds.map
        (Equiv.swap mapping.backend.uniqueId mapping.client.uniqueId)) ∧
    (∀ direction (one other : Packet) (here there : Nat),
      ((mapping.packet direction one).runtimeIds[here]? =
          (mapping.packet direction other).runtimeIds[there]? ↔
        one.runtimeIds[here]? = other.runtimeIds[there]?) ∧
      ((mapping.packet direction one).uniqueIds[here]? =
          (mapping.packet direction other).uniqueIds[there]? ↔
        one.uniqueIds[here]? = other.uniqueIds[there]?)) ∧
    (mapping.blocks.isIdentity = true → mapping.items.isIdentity = true →
      ∀ there back packet, mapping.packet back (mapping.packet there packet) = packet) := by
  refine ⟨fun direction packet => ⟨?_, ?_⟩, fun direction one other here there => ⟨?_, ?_⟩,
    packet_packet⟩
  · rw [packet_runtimeIds, runtimeId_eq_swap]
  · rw [packet_uniqueIds, uniqueId_eq_swap]
  · rw [packet_runtimeIds, packet_runtimeIds, runtimeId_eq_swap, getElem?_map_swap]
  · rw [packet_uniqueIds, packet_uniqueIds, uniqueId_eq_swap, getElem?_map_swap]

/-- The client calls the player 1 and its backend 40, where another entity is called 1. A link
between the two names each by its own id on either side, and is restored on the way back. -/
theorem packet_swaps_ids_link :
    let mapping := { Mapping.start (some ⟨1, 1⟩) with backend := ⟨40, 40⟩ }
    let link : Packet := .setEntityLink ⟨1, 40, 1, false, false, []⟩
    mapping.blocks.isIdentity = true ∧ mapping.items.isIdentity = true ∧
      (mapping.packet .clientbound link).uniqueIds = [40, 1] ∧
      mapping.packet .serverbound (mapping.packet .clientbound link) = link := by
  intro mapping link
  obtain ⟨swapped, -, restored⟩ := packet_swaps_ids mapping
  refine ⟨rfl, rfl, ?_, restored rfl rfl .clientbound .serverbound link⟩
  rw [(swapped .clientbound link).2]
  decide

end Ferry.Mapping
