import Ferry.Proofs.Bridge.Adoption
import Ferry.Proofs.Packet.Canonical
import Ferry.Proofs.Frame.Delivery
import Ferry.Proofs.Mapping.ChangeReport

/-!
# The ids in a packet that goes on

A packet names entities by their runtime ids and by their unique ids. On the other side it names
the same number of them, each by the id that the mapping has for it, whether the packet is written
anew or goes on in the bytes it came in. An item may become the stack of no item on its way, and is
then written as such; everything else is read as it was put into the terms of the other side.
-/

namespace Ferry

/-! ## Ids -/

namespace Packet

/-- The runtime ids by which a packet names entities. -/
def runtimeIds : Packet → List UInt64
  | .startGame packet => [packet.runtimeId]
  | .addPlayer packet => [packet.runtimeId]
  | .addEntity packet => [packet.runtimeId]
  | .addItemEntity packet => [packet.runtimeId]
  | .moveEntityAbsolute packet => [packet.runtimeId]
  | .movePlayer packet => [packet.runtimeId, packet.ridingRuntimeId]
  | .entityEvent packet => [packet.runtimeId]
  | .playerAction packet => [packet.runtimeId]
  | .setEntityData packet => [packet.runtimeId]
  | .setEntityMotion packet => [packet.runtimeId]
  | .setLocalPlayerAsInitialized packet => [packet.runtimeId]
  | .mobEquipment packet => [packet.runtimeId]
  | _ => []

/-- The unique ids by which a packet names entities. -/
def uniqueIds : Packet → List Int64
  | .startGame packet => [packet.uniqueId]
  | .addPlayer packet => [packet.uniqueId]
  | .addEntity packet => [packet.uniqueId]
  | .addItemEntity packet => [packet.uniqueId]
  | .removeEntity packet => [packet.uniqueId]
  | .setEntityLink packet => [packet.fromId, packet.toId]
  | _ => []

end Packet

/-! ## What is written of items -/

namespace ItemStack

/-- An item stack as it is read again: the stack of no item has nothing but its id. -/
def settled (item : ItemStack) : ItemStack := if item.isAir then air else item

/-- What is read again of an item stack is written as the stack itself. -/
theorem write_settled (item : ItemStack) : layout.write item.settled = layout.write item := by
  unfold settled
  split
  next air =>
    have zero : item.id = 0 := by simpa [isAir] using air
    simp [layout, Layout.convert, Layout.chain, zero, ItemStack.air, Layout.onlyIf, Layout.constant]
  next => rfl

/-- An item stack as it is read again is in canonical form, if what follows it is short enough. -/
theorem settled_canonical {item : ItemStack} (short : item.extra.length ≤ bufferLimit) :
    item.settled.IsCanonical := by
  unfold settled
  split
  next => rfl
  next filled =>
    have filled : ¬item.id = 0 := by simpa [isAir] using filled
    simpa [IsCanonical, filled] using short

/-- What follows an item is never longer than what can be read. -/
theorem IsCanonical.short {item : ItemStack} (canonical : item.IsCanonical) :
    item.extra.length ≤ bufferLimit := by
  unfold IsCanonical at canonical
  split at canonical
  next => rw [canonical]; exact Nat.zero_le _
  next => exact canonical

end ItemStack

namespace Packet

variable {version : Version}

/-- The packet as it is read on the other side: an item that has become the stack of no item has
nothing but its id. -/
def settled : Packet → Packet
  | .addPlayer packet => .addPlayer { packet with heldItem := packet.heldItem.settled }
  | .addItemEntity packet => .addItemEntity { packet with item := packet.item.settled }
  | .mobEquipment packet => .mobEquipment { packet with item := packet.item.settled }
  | other => other

/-- Settling the item of a packet leaves its kind. -/
@[simp] theorem settled_id (packet : Packet) : packet.settled.id = packet.id := by
  cases packet <;> rfl

/-- Settling the item of a packet leaves its runtime ids. -/
@[simp] theorem settled_runtimeIds (packet : Packet) :
    packet.settled.runtimeIds = packet.runtimeIds := by cases packet <;> rfl

/-- Settling the item of a packet leaves its unique ids. -/
@[simp] theorem settled_uniqueIds (packet : Packet) :
    packet.settled.uniqueIds = packet.uniqueIds := by cases packet <;> rfl

/-- What is read again of a packet is written as the packet itself. -/
@[simp] theorem settled_body (packet : Packet) :
    packet.settled.body version = packet.body version := by
  cases packet with
  | addPlayer packet =>
    simp [settled, body, AddPlayer.layout, Layout.convert, Layout.pair, ItemStack.write_settled]
  | addItemEntity packet =>
    simp [settled, body, AddItemEntity.layout, Layout.convert, Layout.pair, ItemStack.write_settled]
  | mobEquipment packet =>
    simp [settled, body, MobEquipment.layout, Layout.convert, Layout.pair, ItemStack.write_settled]
  | _ => rfl

end Packet

/-! ## What is stored in metadata -/

namespace Metadata

variable {key : UInt32} {value : MetadataValue} {entries : List MetadataEntry}

/-- What holds of all entries and of the one that is set holds of all of them afterwards. -/
theorem insertInto_forall {property : MetadataEntry → Prop} (here : property ⟨key, value⟩)
    (others : ∀ entry ∈ entries, property entry) :
    ∀ entry ∈ insertInto key value entries, property entry := by
  induction entries with
  | nil => exact List.forall_mem_singleton.mpr here
  | cons entry entries ih =>
    obtain ⟨first, rest⟩ := List.forall_mem_cons.mp others
    unfold insertInto
    split
    · exact List.forall_mem_cons.mpr ⟨here, rest⟩
    · exact List.forall_mem_cons.mpr ⟨first, ih rest⟩

/-- A value that is stored in place of another takes no more room. -/
theorem length_insertInto (found : (entries.find? fun entry => entry.key = key).isSome = true) :
    (insertInto key value entries).length = entries.length := by
  induction entries with
  | nil => cases found
  | cons entry entries ih =>
    unfold insertInto
    by_cases same : entry.key = key
    · rw [if_pos same, List.length_cons, List.length_cons]
    · rw [List.find?_cons_of_neg (by simpa using same)] at found
      rw [if_neg same, List.length_cons, List.length_cons, ih found]

end Metadata

/-! ## Packets on the other side -/

namespace Mapping

variable {mapping : Mapping} {direction : Direction} {version : Version} {value : Packet}
  {packet passed : BatchPacket}

/-- Whether the entity ids in packets of a kind are renamed on the way to the other side. -/
def renames (direction : Direction) (id : PacketId) : Bool :=
  (withIds direction).contains id || (withAll direction).contains id

/-- Rewriting a packet rewrites each of its runtime ids. -/
@[simp] theorem packet_runtimeIds :
    (mapping.packet direction value).runtimeIds = value.runtimeIds.map mapping.runtimeId := by
  cases value with
  | levelChunk chunk => cases direction <;> rfl
  | subChunk chunk => cases direction <;> rfl
  | _ => rfl

/-- Rewriting a packet rewrites each of its unique ids. -/
@[simp] theorem packet_uniqueIds :
    (mapping.packet direction value).uniqueIds = value.uniqueIds.map mapping.uniqueId := by
  cases value with
  | levelChunk chunk => cases direction <;> rfl
  | subChunk chunk => cases direction <;> rfl
  | _ => rfl

/-- What follows a rewritten item is short enough to be read. -/
theorem item_short {item : ItemStack} (canonical : item.IsCanonical) :
    (mapping.item direction item).extra.length ≤ bufferLimit := by
  unfold Mapping.item
  split <;> exact canonical.short

/-- The block of a falling block is stored in the place that it had. -/
theorem fallingBlock_canonical {metadata : Metadata} (canonical : metadata.IsCanonical) :
    (mapping.fallingBlock direction metadata).IsCanonical := by
  unfold fallingBlock
  split
  next block found =>
    refine ⟨?_, Metadata.insertInto_forall trivial canonical.values⟩
    have stored : (metadata.entries.find? fun entry =>
        entry.key = Metadata.variantKey).isSome = true := by
      obtain ⟨entry, here, -⟩ := Option.map_eq_some_iff.mp found
      rw [here]
      rfl
    exact Nat.lt_of_le_of_lt (Nat.le_of_eq (Metadata.length_insertInto stored)) canonical.count
  next => exact canonical

/-- What is written of a packet whose ids are renamed is read as the packet that it was put into,
settled. -/
theorem packet_settles (canonical : value.IsCanonical version)
    (renamed : renames direction value.id = true) :
    (mapping.packet direction value).settled.IsCanonical version := by
  cases value with
  | addPlayer packet =>
    exact ⟨canonical.username, canonical.platformChatId,
      ItemStack.settled_canonical (item_short canonical.heldItem), canonical.metadata,
      canonical.properties⟩
  | addItemEntity packet => exact ItemStack.settled_canonical (item_short canonical)
  | mobEquipment packet => exact ItemStack.settled_canonical (item_short canonical)
  | addEntity packet =>
    refine ⟨canonical.entityType, canonical.count, canonical.names, ?_⟩
    change Metadata.IsCanonical (if _ then _ else _)
    split
    · exact fallingBlock_canonical canonical.metadata
    · exact canonical.metadata
  | inventoryContent packet => cases direction <;> cases renamed
  | inventorySlot packet => cases direction <;> cases renamed
  | updateBlock packet => cases direction <;> cases renamed
  | levelEvent packet => cases direction <;> cases renamed
  | levelSoundEvent packet => cases direction <;> cases renamed
  | levelChunk packet => cases direction <;> cases renamed
  | subChunk packet => cases direction <;> cases renamed
  | _ => exact canonical

/-- Where the player has the same ids on both sides, every entity has. -/
theorem runtimeId_of_unswapped (same : mapping.swapsIds = false) (id : UInt64) :
    mapping.runtimeId id = id := by
  have same : mapping.client = mapping.backend := by simpa [swapsIds] using same
  exact swap_unchanged (by simp [swaps, same])

/-- Where the player has the same ids on both sides, every unique id stays. -/
theorem uniqueId_of_unswapped (same : mapping.swapsIds = false) (id : Int64) :
    mapping.uniqueId id = id := by
  have same : mapping.client = mapping.backend := by simpa [swapsIds] using same
  exact swap_unchanged (by simp [swaps, same])

/-- Where a packet with ids is left alone, the player has the same ids on both sides. -/
theorem swapsIds_of_unconcerned {id : PacketId} (renamed : renames direction id = true)
    (plain : mapping.concerns direction id = false) : mapping.swapsIds = false := by
  unfold renames at renamed
  unfold concerns at plain
  cases swaps : mapping.swapsIds with
  | false => rfl
  | true => simp_all

/-- A packet that is not written anew arrives as it came. -/
theorem Carries.arrives_clean (carries : mapping.Carries direction version packet passed)
    (received : packet.decoded = none) (clean : passed.dirty = false) :
    (passed.arrived version).decode version = packet.decode version := by
  have body : passed.outgoingBody version = packet.body := by
    unfold BatchPacket.outgoingBody
    rw [clean, ← carries.body]
    cases passed.decoded <;> rfl
  simp only [BatchPacket.arrived, BatchPacket.received, BatchPacket.decode, received, body,
    carries.header]

/-- A packet whose ids are renamed arrives with as many ids as it had, each put into the terms of
the other side. -/
theorem Carries.arrives (carries : mapping.Carries direction version packet passed)
    (received : packet.decoded = none) (clean : packet.dirty = false)
    (renamed : renames direction packet.header.id = true)
    (decoded : packet.decode version = .ok value) :
    ∃ arriving, (passed.arrived version).decode version = .ok arriving ∧ arriving.id = value.id ∧
      arriving.runtimeIds = value.runtimeIds.map mapping.runtimeId ∧
      arriving.uniqueIds = value.uniqueIds.map mapping.uniqueId := by
  cases concerned : mapping.concerns direction packet.header.id with
  | false =>
    have unswapped := swapsIds_of_unconcerned renamed concerned
    have spared : passed.dirty = false := (carries.plain concerned).trans clean
    refine ⟨value, (carries.arrives_clean received spared).trans decoded, rfl, ?_, ?_⟩
    · exact (List.map_id'' (runtimeId_of_unswapped unswapped) _).symm
    · exact (List.map_id'' (uniqueId_of_unswapped unswapped) _).symm
  | true =>
    obtain ⟨other, again, after, dirty⟩ := carries.concerned concerned
    obtain rfl : other = value := Except.ok.inj (again.symm.trans decoded)
    have kind := BatchPacket.id_of_decode received decoded
    rw [clean, Bool.false_or] at dirty
    cases changes : mapping.changes direction other with
    | false =>
      have same := packet_unchanged changes
      have spared : passed.dirty = false := by simpa [carry?, changes] using dirty
      refine ⟨other, (carries.arrives_clean received spared).trans decoded, rfl, ?_, ?_⟩
      · exact (congrArg Packet.runtimeIds same).symm.trans packet_runtimeIds
      · exact (congrArg Packet.uniqueIds same).symm.trans packet_uniqueIds
    | true =>
      have written : passed.dirty = true := by simpa [carry?, changes] using dirty
      let settled := (mapping.packet direction other).settled
      have canonical : settled.IsCanonical version := by
        rw [BatchPacket.decode, received] at decoded
        rw [← kind] at renamed
        exact packet_settles
          (Packet.reader_yields _ _ _ _ (Packet.decode_eq_ok_iff.mp decoded)).1 renamed
      have body : passed.outgoingBody version = settled.body version := by
        simp only [BatchPacket.outgoingBody, after, written, settled, Packet.settled_body]
      have same : settled.id = packet.header.id := by simp [settled, kind]
      have read : (passed.arrived version).decode version = .ok settled := by
        change Packet.decode version passed.header.id (passed.outgoingBody version) = _
        rw [body, carries.header, ← same]
        exact Packet.decode_eq_ok_iff.mpr (Packet.reader_body settled canonical)
      exact ⟨settled, read, same.trans kind.symm, by simp [settled], by simp [settled]⟩

end Mapping

end Ferry
