import Ferry.Proofs.Mapping.ChangeReport
import Ferry.Proofs.Terrain.ColumnWalk

/-!
# What is reported has changed

The other half of a report: what counts as changed is another packet on the other side. For each
rule there is again one statement, and there is one exception. The block of a cracking event is
compared before it is masked, so that two numbers count as different that differ only in the bits
of the face, which are not carried over.
-/

namespace Ferry

/-- The value that was set for a key is the one that is found. -/
theorem Metadata.find?_insertInto {key : UInt32} {value : MetadataValue}
    {entries : List MetadataEntry} :
    (insertInto key value entries).find? (fun entry => entry.key = key) = some ⟨key, value⟩ := by
  induction entries with
  | nil => simp [insertInto]
  | cons entry entries ih =>
    unfold insertInto
    by_cases same : entry.key = key
    · simp [same]
    · simp [same, ih]

/-- What was stored under a key is found under it. -/
theorem Metadata.get?_insert (metadata : Metadata) (key : UInt32) (value : MetadataValue) :
    (metadata.insert key value).get? key = some value := by
  unfold Metadata.insert Metadata.get?
  rw [find?_insertInto, Option.map_some]

/-- To crack a block is not to destroy it. -/
theorem LevelEvent.crackBlock_ne_destroyBlock : crackBlock ≠ destroyBlock := by
  decide

/-- Data that were renumbered are other data: both are walked, and one walk finds one column. -/
theorem Terrain.renumber_differs {renumbering : Renumbering BlockId} {count : Nat}
    {data output : Bytes} (written : renumber renumbering count data = .ok (some output)) :
    output ≠ data := by
  unfold renumber at written
  split at written
  next => cases written
  next =>
    cases found : Column.read count data with
    | error fault => simp [found, Bind.bind, Except.bind] at written
    | ok column =>
      simp only [found, Bind.bind, Except.bind] at written
      split at written
      next => cases written
      next moved =>
        cases written
        intro same
        have walks := Column.read_eq_ok_iff.mp found
        have again := walks.renumber renumbering
        rw [same] at again
        exact moved (walks.unique again)

namespace Mapping

variable {mapping : Mapping} {direction : Direction}

/-! ## Numbers and items -/

/-- An id stays the same just if no swap is reported. -/
theorem swap_eq_self_iff {ι : Type} [DecidableEq ι] {client backend id : ι} :
    swap client backend id = id ↔ swaps client backend id = false := by
  refine ⟨fun same => ?_, swap_unchanged⟩
  unfold swap at same
  unfold swaps
  split at same
  next atBackend => simp [same, ← atBackend]
  next =>
    split at same
    next atClient => simp [same, ← atClient]
    next elsewhere notClient => simp [elsewhere, notClient]

/-- A runtime id stays the same just if no change is reported. -/
theorem runtimeId_eq_self_iff {id : UInt64} :
    mapping.runtimeId id = id ↔ mapping.changesRuntimeId id = false :=
  swap_eq_self_iff

/-- A unique id stays the same just if no change is reported. -/
theorem uniqueId_eq_self_iff {id : Int64} :
    mapping.uniqueId id = id ↔ mapping.changesUniqueId id = false :=
  swap_eq_self_iff

/-- A block stays the same just if no change is reported. -/
theorem signedBlock_eq_self_iff {id : Int32} :
    mapping.signedBlock direction id = id ↔ mapping.changesSignedBlock direction id = false := by
  simp [changesSignedBlock]

/-- An item stack stays the same just if no change is reported. -/
theorem item_eq_self_iff {stack : ItemStack} :
    mapping.item direction stack = stack ↔ mapping.changesItem direction stack = false := by
  refine ⟨fun same => ?_, item_unchanged⟩
  unfold changesItem
  unfold item at same
  split at same
  next air => simp [air]
  next =>
    have kind := congrArg ItemStack.id same
    have block := congrArg ItemStack.blockId same
    dsimp only at kind block
    split at block
    next unplaced => simp [kind, unplaced]
    next => simp [kind, signedBlock_eq_self_iff.mp block]

/-- Metadata stay the same just if no change of their block is reported. -/
theorem fallingBlock_eq_self_iff {metadata : Metadata} :
    mapping.fallingBlock direction metadata = metadata ↔
      mapping.changesFallingBlock direction metadata = false := by
  refine ⟨fun same => ?_, fallingBlock_unchanged⟩
  unfold changesFallingBlock
  unfold fallingBlock at same
  split
  next block found =>
    simp only [found] at same
    have stored := metadata.get?_insert Metadata.variantKey
      (.int (mapping.signedBlock direction block))
    rw [same, found, Option.some.injEq, MetadataValue.int.injEq] at stored
    exact signedBlock_eq_self_iff.mp stored.symm
  next => rfl

/-! ## Terrain and events -/

/-- Chunk data stay the same just if no change is reported. -/
theorem chunkData_eq_self_iff {count : Nat} {data : Bytes} :
    mapping.chunkData count data = data ↔ mapping.changesChunkData count data = false := by
  refine ⟨fun same => ?_, chunkData_unchanged⟩
  unfold changesChunkData
  unfold chunkData at same
  split
  next renumbered written =>
    rw [written] at same
    exact absurd same (Terrain.renumber_differs written)
  next => rfl

/-- A chunk stays the same just if no change is reported. -/
theorem levelChunk_eq_self_iff {chunk : LevelChunk} :
    mapping.levelChunk chunk = chunk ↔ mapping.changesLevelChunk chunk = false := by
  refine ⟨fun same => ?_, levelChunk_unchanged⟩
  unfold changesLevelChunk
  unfold levelChunk at same
  split at same
  next inline =>
    rw [inline, Bool.true_and]
    exact chunkData_eq_self_iff.mp (congrArg LevelChunk.data same)
  next remote => simp [remote]

/-- A section stays the same just if no change is reported. -/
theorem subChunkEntry_eq_self_iff {entry : SubChunkEntry} :
    mapping.subChunkEntry entry = entry ↔ mapping.changesSubChunkEntry entry = false := by
  refine ⟨fun same => ?_, subChunkEntry_unchanged⟩
  unfold changesSubChunkEntry
  unfold subChunkEntry at same
  split at same
  next success =>
    rw [decide_eq_true success, Bool.true_and]
    exact chunkData_eq_self_iff.mp (congrArg SubChunkEntry.payload same)
  next failure => simp [failure]

/-- Changing each of some values leaves them as they are if none of them counts as changed. -/
theorem map_eq_self_iff_unchanged {α : Type} {change : α → α} {changes : α → Bool}
    {values : List α} (reported : ∀ value, change value = value ↔ changes value = false) :
    values.map change = values ↔ values.any changes = false := by
  rw [Terrain.map_eq_self_iff, List.any_eq_false]
  simp only [reported, Bool.not_eq_true]

/-- Sections stay the same just if no change is reported. -/
theorem subChunk_eq_self_iff {packet : SubChunk} :
    mapping.subChunk packet = packet ↔ mapping.changesSubChunk packet = false := by
  refine ⟨fun same => ?_, subChunk_unchanged⟩
  unfold changesSubChunk
  unfold subChunk at same
  split at same
  next cached => simp [cached]
  next inline =>
    have entries := congrArg SubChunk.entries same
    rw [map_eq_self_iff_unchanged fun _ => subChunkEntry_eq_self_iff] at entries
    rw [entries, Bool.and_false]

/-- What is above a mask is set aside, and what is within it comes out of a masked number. -/
theorem or_masked (mask above within : Int32) :
    (above &&& ~~~mask ||| within &&& mask) &&& mask = within &&& mask := by
  rw [← Int32.toBitVec_inj]
  ext bit
  simp only [Int32.toBitVec_or, Int32.toBitVec_and, Int32.toBitVec_not, BitVec.getElem_or,
    BitVec.getElem_and, BitVec.getElem_not]
  cases mask.toBitVec[bit] <;> simp

/-- The data of a cracking event are the same exactly if the block is, as far as it is carried. -/
theorem crackData_eq_self_iff {data : Int32} :
    mapping.crackData direction data = data ↔
      mapping.signedBlock direction (data &&& crackMask) &&& crackMask = data &&& crackMask := by
  unfold crackData
  constructor
  · intro same
    have block := congrArg (· &&& crackMask) same
    dsimp only at block
    rwa [or_masked] at block
  · intro block
    rw [block]
    exact split_mask crackMask data

/-! ## Packets -/

/-- A cracking event whose block is another one on the other side, but only in bits that such an
event does not carry. -/
def HidesBlock (mapping : Mapping) (direction : Direction) : Packet → Prop
  | .levelEvent packet =>
    packet.event = LevelEvent.crackBlock ∧
      mapping.signedBlock direction (packet.data &&& crackMask) ≠ packet.data &&& crackMask ∧
      mapping.signedBlock direction (packet.data &&& crackMask) &&& crackMask =
        packet.data &&& crackMask
  | _ => False

/-- What an event hides counts as changed, and is not. -/
theorem HidesBlock.changes {packet : Packet} (hides : mapping.HidesBlock direction packet) :
    mapping.changes direction packet = true := by
  cases packet with
  | levelEvent packet =>
    obtain ⟨cracks, other, -⟩ := hides
    simpa [Mapping.changes, changesEventData, changesSignedBlock, cracks,
      LevelEvent.crackBlock_ne_destroyBlock] using other
  | _ => exact hides.elim

/-- The data of an event stay the same just if no change is reported, or one that the mask hides. -/
theorem eventData_eq_self_iff (packet : LevelEvent) :
    mapping.eventData direction packet.event packet.data = packet.data ↔
      mapping.changesEventData direction packet.event packet.data = false ∨
        mapping.HidesBlock direction (.levelEvent packet) := by
  unfold eventData changesEventData HidesBlock
  split
  next destroys =>
    simp [destroys, LevelEvent.crackBlock_ne_destroyBlock.symm, signedBlock_eq_self_iff]
  next =>
    split
    next cracks =>
      rw [crackData_eq_self_iff]
      by_cases same : mapping.signedBlock direction (packet.data &&& crackMask) =
        packet.data &&& crackMask
      · simp [same, changesSignedBlock, Int32.and_assoc]
      · simp [same, changesSignedBlock, cracks]
    next => simp

/-- A packet is the same on the other side if it does not count as changed, or hides its block. -/
theorem packet_eq_self_iff {packet : Packet} :
    mapping.packet direction packet = packet ↔
      mapping.changes direction packet = false ∨ mapping.HidesBlock direction packet := by
  cases packet with
  | levelEvent packet =>
    obtain ⟨event, position, data⟩ := packet
    simpa [Mapping.packet, changes] using eventData_eq_self_iff ⟨event, position, data⟩
  | startGame packet | addPlayer packet | addItemEntity packet | removeEntity packet
  | moveEntityAbsolute packet | movePlayer packet | entityEvent packet | playerAction packet
  | setEntityData packet | setEntityMotion packet | setEntityLink packet
  | setLocalPlayerAsInitialized packet | mobEquipment packet | inventorySlot packet =>
    cases packet
    simp [Mapping.packet, changes, HidesBlock, runtimeId_eq_self_iff, uniqueId_eq_self_iff,
      item_eq_self_iff, and_assoc, and_comm, and_left_comm]
  | addEntity packet =>
    obtain ⟨_, _, entityType, _⟩ := packet
    by_cases falls : entityType = AddEntity.fallingBlock
    · simp [Mapping.packet, changes, HidesBlock, falls, runtimeId_eq_self_iff,
        uniqueId_eq_self_iff, fallingBlock_eq_self_iff, and_assoc, and_left_comm]
    · simp [Mapping.packet, changes, HidesBlock, falls, runtimeId_eq_self_iff,
        uniqueId_eq_self_iff, and_comm]
  | inventoryContent packet =>
    cases packet
    simp [Mapping.packet, changes, HidesBlock, map_eq_self_iff_unchanged fun _ => item_eq_self_iff]
  | updateBlock packet =>
    cases packet
    simp [Mapping.packet, changes, HidesBlock]
  | levelSoundEvent packet =>
    cases carries : packet.carriesBlock with
    | true =>
      cases packet
      simp [Mapping.packet, changes, HidesBlock, carries, signedBlock_eq_self_iff]
    | false => simp [Mapping.packet, changes, HidesBlock, carries]
  | levelChunk packet =>
    cases direction with
    | clientbound => simp [Mapping.packet, changes, HidesBlock, levelChunk_eq_self_iff]
    | serverbound => simp [Mapping.packet, changes]
  | subChunk packet =>
    cases direction with
    | clientbound => simp [Mapping.packet, changes, HidesBlock, subChunk_eq_self_iff]
    | serverbound => simp [Mapping.packet, changes]
  | _ => simp [Mapping.packet, changes]

/-- Whether a packet counts as changed, against whether it is another packet. Nothing changes that
does not count as changed; and what counts as changed is exactly what changes, unless the packet is
a cracking event that hides its block. -/
theorem changes_iff_differs (mapping : Mapping) (direction : Direction) (packet : Packet) :
    (mapping.changes direction packet = false → mapping.packet direction packet = packet) ∧
      ((mapping.changes direction packet = true ↔ mapping.packet direction packet ≠ packet) ↔
        ¬mapping.HidesBlock direction packet) := by
  refine ⟨packet_unchanged, ?_⟩
  rw [Ne, packet_eq_self_iff]
  by_cases hides : mapping.HidesBlock direction packet
  · simp [hides, hides.changes]
  · simp [hides]

/-- The client knows stone by a number that takes more than 24 bits, the backend by the same number
without the bits above. A cracking stone counts as changed, and is what it was. -/
theorem hidden_block_counts :
    let client : SharedPalette BlockId := ⟨0, ⟨[⟨"minecraft:stone", 0x01000005⟩]⟩⟩
    let backend : SharedPalette BlockId := ⟨1, ⟨[⟨"minecraft:stone", 5⟩]⟩⟩
    let items : SharedPalette ItemId := ⟨0, ⟨[]⟩⟩
    let mapping := ((Mapping.start none).adopt ⟨1, 1⟩ client items).adopt ⟨1, 1⟩ backend items
    let cracks : Packet := .levelEvent ⟨LevelEvent.crackBlock, default, 0x02000005⟩
    ¬(mapping.changes .clientbound cracks = true ↔
      mapping.packet .clientbound cracks ≠ cracks) := by
  decide +kernel

end Mapping

end Ferry
