import Ferry.Proofs.Mapping.Difference
import Ferry.Proofs.Mapping.PacketIds

/-!
# Packets that nobody has to look into

One table says by its kind alone whether a packet has to be looked into, and another one how each of
its fields is put into the terms of the other side. The two meet in what packets of a kind carry:
ids of entities, items, and blocks. A packet that need not be looked into carries only what both
sides number alike, so that it is the same on the other side, and a packet that is passed over
unread is read there as if it had been put into the terms of that side.
-/

namespace Ferry

/-! ## What packets carry -/

namespace PacketId

/-- Whether packets of a kind name entities by the ids of one side. -/
def namesEntities (id : PacketId) : Bool :=
  [startGame, addPlayer, addEntity, removeEntity, addItemEntity, moveEntityAbsolute, movePlayer,
    entityEvent, mobEquipment, playerAction, setEntityData, setEntityMotion, setEntityLink,
    setLocalPlayerAsInitialized].contains id

/-- Whether packets of a kind hold items. -/
def holdsItems (id : PacketId) : Bool :=
  [addPlayer, addItemEntity, mobEquipment, inventoryContent, inventorySlot].contains id

/-- Whether packets of a kind hold blocks, by themselves or in items. -/
def holdsBlocks (id : PacketId) : Bool :=
  id.holdsItems ||
    [addEntity, updateBlock, levelEvent, levelSoundEvent, levelChunk, subChunk].contains id

end PacketId

namespace Mapping

variable {mapping : Mapping} {direction : Direction} {id : PacketId}

/-- The kinds of packets of which it is laid down, for a direction, when they are looked into. -/
def listed (direction : Direction) : List PacketId :=
  withIds direction ++ withBlocks direction ++ withItems direction ++ withAll direction

/-- Whether both sides number alike all that packets of a kind carry. -/
structure Alike (mapping : Mapping) (id : PacketId) : Prop where
  ids : id.namesEntities = true → mapping.swapsIds = false
  items : id.holdsItems = true → mapping.items.isIdentity = true
  blocks : id.holdsBlocks = true → mapping.blocks.isIdentity = true

/-- Whatever packets of a listed kind carry, they are listed for it. -/
theorem listed_carrying {id : PacketId} (among : id ∈ listed direction) :
    (id.namesEntities = true → id ∈ withIds direction ∨ id ∈ withAll direction) ∧
    (id.holdsItems = true → id ∈ withItems direction ∨ id ∈ withAll direction) ∧
    (id.holdsBlocks = true →
      id ∈ withBlocks direction ∨ id ∈ withItems direction ∨ id ∈ withAll direction) := by
  -- the tables are compared entry by entry: there are far too many ids to try them all
  have table : (listed direction).all (fun id =>
      decide (id.namesEntities = true → id ∈ withIds direction ∨ id ∈ withAll direction) &&
      decide (id.holdsItems = true → id ∈ withItems direction ∨ id ∈ withAll direction) &&
      decide (id.holdsBlocks = true → id ∈ withBlocks direction ∨ id ∈ withItems direction ∨
        id ∈ withAll direction)) = true := by
    cases direction <;> decide
  simpa only [Bool.and_eq_true, decide_eq_true_eq, and_assoc] using
    List.all_eq_true.mp table id among

/-- Packets of a listed kind that concern nobody carry what both sides number alike. -/
theorem alike_of_unconcerned (among : id ∈ listed direction)
    (plain : mapping.concerns direction id = false) : mapping.Alike id := by
  obtain ⟨ids, items, blocks⟩ := listed_carrying among
  simp only [concerns, Bool.or_eq_false_iff, Bool.and_eq_false_iff, Bool.not_eq_false',
    List.contains_eq_mem, decide_eq_false_iff_not] at plain
  obtain ⟨⟨⟨plainIds, plainBlocks⟩, plainItems⟩, plainAll⟩ := plain
  have ofAll (all : id ∈ withAll direction) := plainAll.resolve_right (not_not_intro all)
  have ofItems (only : id ∈ withItems direction) := plainItems.resolve_right (not_not_intro only)
  refine ⟨fun names => ?_, fun holds => ?_, fun holds => ?_⟩
  · rcases ids names with only | all
    · exact plainIds.resolve_right (not_not_intro only)
    · exact (ofAll all).1.1
  · rcases items holds with only | all
    · exact (ofItems only).1
    · exact (ofAll all).1.2
  · rcases blocks holds with only | only | all
    · exact plainBlocks.resolve_right (not_not_intro only)
    · exact (ofItems only).2
    · exact (ofAll all).2

end Mapping

/-! ## What both sides number alike -/

namespace Renumbering

variable {ι : Type} [DecidableEq ι] [PaletteKind ι] {renumbering : Renumbering ι}

/-- A renumbering that is none leaves every number of the backend. -/
theorem toClient_of_isIdentity (same : renumbering.isIdentity = true) (id : ι) :
    renumbering.toClient id = id := by
  cases renumbering with
  | identity => rfl
  | between => cases same

/-- A renumbering that is none leaves every number of the client. -/
theorem toBackend_of_isIdentity (same : renumbering.isIdentity = true) (id : ι) :
    renumbering.toBackend id = id := by
  cases renumbering with
  | identity => rfl
  | between => cases same

end Renumbering

namespace Mapping

variable {mapping : Mapping} {direction : Direction}

section Blocks

variable (blocks : mapping.blocks.isIdentity = true)

include blocks

/-- Blocks keep their numbers. -/
theorem block_same (id : BlockId) : mapping.block direction id = id := by
  cases direction with
  | clientbound => exact Renumbering.toClient_of_isIdentity blocks id
  | serverbound => exact Renumbering.toBackend_of_isIdentity blocks id

/-- Blocks that are written as signed numbers keep them. -/
theorem signedBlock_same (id : Int32) : mapping.signedBlock direction id = id := by
  rw [signedBlock, block_same blocks, Int32.toInt32_toUInt32]

/-- The block that falls keeps its number. -/
theorem fallingBlock_same (metadata : Metadata) :
    mapping.fallingBlock direction metadata = metadata := by
  apply fallingBlock_unchanged
  unfold changesFallingBlock
  split
  · exact signedBlock_eq_self_iff.mp (signedBlock_same blocks _)
  · rfl

/-- Chunk data are left alone. -/
theorem chunkData_same (count : Nat) (data : Bytes) : mapping.chunkData count data = data := by
  simp [chunkData, Terrain.renumber, blocks]

/-- A chunk is left alone. -/
theorem levelChunk_same (chunk : LevelChunk) : mapping.levelChunk chunk = chunk := by
  simp [levelChunk, chunkData_same blocks]

/-- A section is left alone. -/
theorem subChunkEntry_same (entry : SubChunkEntry) : mapping.subChunkEntry entry = entry := by
  simp [subChunkEntry, chunkData_same blocks]

/-- Sections are left alone. -/
theorem subChunk_same (packet : SubChunk) : mapping.subChunk packet = packet := by
  simp [subChunk, List.map_id'' (subChunkEntry_same blocks)]

/-- The data of an event are left alone. -/
theorem eventData_same (event data : Int32) :
    mapping.eventData direction event data = data := by
  apply eventData_unchanged
  simp [changesEventData, changesSignedBlock, signedBlock_same blocks]

/-- Where the items are numbered alike as well, an item stack is the same. -/
theorem item_same (items : mapping.items.isIdentity = true) (stack : ItemStack) :
    mapping.item direction stack = stack := by
  have kind : mapping.itemId direction stack.id = stack.id := by
    cases direction with
    | clientbound => exact Renumbering.toClient_of_isIdentity items _
    | serverbound => exact Renumbering.toBackend_of_isIdentity items _
  apply item_unchanged
  simp [changesItem, changesSignedBlock, kind, signedBlock_same blocks]

end Blocks

/-! ## Packets -/

/-- A packet that carries nothing but what both sides number alike is the same on the other side. -/
theorem Alike.packet_same {packet : Packet} (alike : mapping.Alike packet.id) :
    mapping.packet direction packet = packet := by
  cases packet with
  | startGame packet | removeEntity packet | moveEntityAbsolute packet | movePlayer packet
  | entityEvent packet | playerAction packet | setEntityData packet | setEntityMotion packet
  | setEntityLink packet | setLocalPlayerAsInitialized packet =>
    simp [Mapping.packet, runtimeId_of_unswapped (alike.ids rfl),
      uniqueId_of_unswapped (alike.ids rfl)]
  | addPlayer packet | addItemEntity packet | mobEquipment packet =>
    simp [Mapping.packet, runtimeId_of_unswapped (alike.ids rfl),
      uniqueId_of_unswapped (alike.ids rfl), item_same (alike.blocks rfl) (alike.items rfl)]
  | addEntity packet =>
    simp [Mapping.packet, runtimeId_of_unswapped (alike.ids rfl),
      uniqueId_of_unswapped (alike.ids rfl), fallingBlock_same (alike.blocks rfl)]
  | inventoryContent packet =>
    simp [Mapping.packet, List.map_id'' (item_same (alike.blocks rfl) (alike.items rfl))]
  | inventorySlot packet => simp [Mapping.packet, item_same (alike.blocks rfl) (alike.items rfl)]
  | updateBlock packet => simp [Mapping.packet, block_same (alike.blocks rfl)]
  | levelEvent packet => simp [Mapping.packet, eventData_same (alike.blocks rfl)]
  | levelSoundEvent packet => simp [Mapping.packet, signedBlock_same (alike.blocks rfl)]
  | levelChunk packet =>
    cases direction with
    | clientbound => simp [Mapping.packet, levelChunk_same (alike.blocks rfl)]
    | serverbound => rfl
  | subChunk packet =>
    cases direction with
    | clientbound => simp [Mapping.packet, subChunk_same (alike.blocks rfl)]
    | serverbound => rfl
  | _ => rfl

/-- It does not count as changed either: there is no other block in it to be hidden. -/
theorem Alike.changes_eq_false {packet : Packet} (alike : mapping.Alike packet.id) :
    mapping.changes direction packet = false := by
  refine (packet_eq_self_iff.mp alike.packet_same).resolve_right fun hides => ?_
  cases packet with
  | levelEvent packet => exact hides.2.1 (signedBlock_same (alike.blocks rfl) _)
  | _ => exact hides

end Mapping

namespace Bridge

/-- A packet that nobody has noticed goes on as it came, and concerns nobody. -/
theorem cross_of_unnoticed {σ : Type} {handler : Handler σ} {direction : Direction}
    {crossing : Crossing σ} {packet : BatchPacket}
    (unnoticed : isNoticed handler direction crossing.state crossing.player packet.header.id =
      false)
    (version : Version) :
    (cross handler direction version crossing packet).packets = crossing.packets ++ [packet] ∧
      crossing.player.mapping.concerns direction packet.header.id = false := by
  refine ⟨by simp [cross, unnoticed], ?_⟩
  simp only [isNoticed, Bool.or_eq_false_iff] at unnoticed
  exact unnoticed.1.2

/-- A packet of a listed kind that concerns nobody does not count as changed and is the same on the
other side. So nothing is lost where such a packet is passed over because nobody has noticed it: it
goes on, and is read there as if it had been read here and put into the terms of that side. -/
theorem unconcerned_same (direction : Direction) (id : PacketId)
    (among : id ∈ Mapping.listed direction) :
    (∀ mapping : Mapping, mapping.concerns direction id = false →
      ∀ packet : Packet, packet.id = id →
        mapping.changes direction packet = false ∧ mapping.packet direction packet = packet) ∧
    ∀ (σ : Type) (handler : Handler σ) (version : Version) (crossing : Crossing σ)
      (packet : BatchPacket), packet = .received packet.header packet.body →
      packet.header.id = id →
      isNoticed handler direction crossing.state crossing.player id = false →
      ∃ passed, (cross handler direction version crossing packet).packets =
          crossing.packets ++ [passed] ∧
        (passed.arrived version).decode version =
          (packet.decode version).map (crossing.player.mapping.packet direction) := by
  constructor
  · rintro mapping plain packet rfl
    have alike := Mapping.alike_of_unconcerned among plain
    exact ⟨alike.changes_eq_false, alike.packet_same⟩
  · rintro σ handler version crossing packet received rfl unnoticed
    obtain ⟨goesOn, plain⟩ := cross_of_unnoticed unnoticed version
    refine ⟨packet, goesOn, ?_⟩
    have again : packet.arrived version = packet := by
      rw [received]
      rfl
    rw [again]
    cases decoded : packet.decode version with
    | error fault => rfl
    | ok value =>
      have kind := BatchPacket.id_of_decode (by rw [received]; rfl) decoded
      have alike := Mapping.alike_of_unconcerned among plain
      rw [← kind] at alike
      rw [Except.map, alike.packet_same]

/-- The client calls the player and the apple by other numbers than its backend, but not the
blocks. An update of a block is passed over, and is read on the other side as it came. -/
theorem unconcerned_same_block :
    let blocks : SharedPalette BlockId := ⟨0, ⟨[⟨"minecraft:stone", 3⟩]⟩⟩
    let learned : SharedPalette ItemId := ⟨0, ⟨[⟨"minecraft:apple", 257⟩]⟩⟩
    let items : SharedPalette ItemId := ⟨1, ⟨[⟨"minecraft:apple", 300⟩]⟩⟩
    let mapping := ((Mapping.start none).adopt ⟨1, 1⟩ blocks learned).adopt ⟨5, 5⟩ blocks items
    let crossing : Crossing Unit :=
      ⟨(), { Player.start none with mapping := mapping }, [], BridgeReport.zero, []⟩
    let packet : BatchPacket :=
      .received (Header.ofId PacketId.updateBlock) [0, 64, 0, 3, 3, 0]
    let update : UpdateBlock := ⟨⟨0, 64, 0⟩, 3, 3, 0⟩
    PacketId.updateBlock ∈ Mapping.listed .clientbound ∧
      mapping.concerns .clientbound PacketId.updateBlock = false ∧
      mapping.swapsIds = true ∧ mapping.items.isIdentity = false ∧
      ∃ passed, (cross Handler.client .clientbound .v712 crossing packet).packets = [passed] ∧
        (passed.arrived .v712).decode .v712 = .ok (.updateBlock update) := by
  intro blocks learned items mapping crossing packet update
  have among : PacketId.updateBlock ∈ Mapping.listed .clientbound := by decide
  have plain : mapping.concerns .clientbound PacketId.updateBlock = false := by decide
  obtain ⟨same, passes⟩ := unconcerned_same .clientbound PacketId.updateBlock among
  obtain ⟨passed, goesOn, read⟩ :=
    passes Unit Handler.client .v712 crossing packet rfl rfl (by decide)
  refine ⟨among, plain, by decide, by decide, passed, goesOn, ?_⟩
  have decoded : packet.decode .v712 = .ok (.updateBlock update) := by decide +kernel
  rw [read, decoded, Except.map, (same mapping plain (.updateBlock update) rfl).2]

end Bridge

end Ferry
