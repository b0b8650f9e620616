import Ferry.Mapping

/-!
# What is not reported is not changed

Whoever carries a packet to the other side reports, rule by rule, whether it has changed, and only
then is the packet written anew. A packet of which nothing is reported is the same on the other
side. For each rule there is one statement, and a packet is the sum of the rules that apply to
its fields.
-/

namespace Ferry

/-- To set a key to the value that it has changes nothing. -/
theorem Metadata.insertInto_same {key : UInt32} {value : MetadataValue}
    {entries : List MetadataEntry}
    (found : (entries.find? fun entry => entry.key = key).map MetadataEntry.value = some value) :
    insertInto key value entries = entries := by
  induction entries with
  | nil => simp at found
  | cons entry entries ih =>
    unfold insertInto
    by_cases same : entry.key = key
    · obtain ⟨_, _⟩ := entry
      subst same
      simp only [List.find?_cons, decide_true, Option.map_some, Option.some.injEq] at found
      subst found
      simp
    · simp only [List.find?_cons, same, decide_false] at found
      rw [if_neg same, ih found]

/-- Storing the value that stands under a key already changes nothing. -/
theorem Metadata.insert_same {metadata : Metadata} {key : UInt32} {value : MetadataValue}
    (found : metadata.get? key = some value) : metadata.insert key value = metadata := by
  unfold Metadata.insert
  rw [insertInto_same found]

namespace Mapping

variable {mapping : Mapping} {direction : Direction}

/-! ## Numbers and items -/

/-- An id that is neither of the two is not swapped. -/
theorem swap_unchanged {ι : Type} [DecidableEq ι] {client backend id : ι}
    (silent : swaps client backend id = false) : swap client backend id = id := by
  unfold swaps at silent
  unfold swap
  by_cases same : client = backend
  · subst same
    split <;> simp_all
  · simp_all

/-- A runtime id that is not reported as changed stays the same. -/
theorem runtimeId_unchanged {id : UInt64} (silent : mapping.changesRuntimeId id = false) :
    mapping.runtimeId id = id :=
  swap_unchanged silent

/-- A unique id that is not reported as changed stays the same. -/
theorem uniqueId_unchanged {id : Int64} (silent : mapping.changesUniqueId id = false) :
    mapping.uniqueId id = id :=
  swap_unchanged silent

/-- A block that is not reported as changed stays the same. -/
theorem signedBlock_unchanged {id : Int32}
    (silent : mapping.changesSignedBlock direction id = false) :
    mapping.signedBlock direction id = id := by
  simpa [changesSignedBlock] using silent

/-- An item stack that is not reported as changed stays the same. -/
theorem item_unchanged {stack : ItemStack}
    (silent : mapping.changesItem direction stack = false) :
    mapping.item direction stack = stack := by
  unfold item
  by_cases air : stack.isAir = true
  · rw [if_pos air]
  · have stays : mapping.itemId direction stack.id = stack.id ∧
        (¬stack.blockId = 0 → mapping.changesSignedBlock direction stack.blockId = false) := by
      simpa [changesItem, air] using silent
    obtain ⟨kind, block⟩ := stays
    rw [if_neg air, kind]
    split
    next unplaced => rw [← unplaced]
    next placed => rw [signedBlock_unchanged (block placed)]

/-- Metadata whose block is not reported as changed stay the same. -/
theorem fallingBlock_unchanged {metadata : Metadata}
    (silent : mapping.changesFallingBlock direction metadata = false) :
    mapping.fallingBlock direction metadata = metadata := by
  unfold changesFallingBlock at silent
  unfold fallingBlock
  split
  next block found =>
    rw [found] at silent
    rw [signedBlock_unchanged silent]
    exact Metadata.insert_same found
  next => rfl

/-! ## Terrain and events -/

/-- Chunk data that are not reported as changed stay the same. -/
theorem chunkData_unchanged {count : Nat} {data : Bytes}
    (silent : mapping.changesChunkData count data = false) :
    mapping.chunkData count data = data := by
  unfold changesChunkData at silent
  unfold chunkData
  split
  next renumbered written =>
    rw [written] at silent
    cases silent
  next => rfl

/-- A chunk that is not reported as changed stays the same. -/
theorem levelChunk_unchanged {chunk : LevelChunk}
    (silent : mapping.changesLevelChunk chunk = false) : mapping.levelChunk chunk = chunk := by
  unfold changesLevelChunk at silent
  unfold levelChunk
  split
  next inline =>
    rw [inline, Bool.true_and] at silent
    rw [chunkData_unchanged silent]
  next => rfl

/-- A section that is not reported as changed stays the same. -/
theorem subChunkEntry_unchanged {entry : SubChunkEntry}
    (silent : mapping.changesSubChunkEntry entry = false) :
    mapping.subChunkEntry entry = entry := by
  unfold changesSubChunkEntry at silent
  unfold subChunkEntry
  split
  next success =>
    rw [decide_eq_true success, Bool.true_and] at silent
    rw [chunkData_unchanged silent]
  next => rfl

/-- A list stays the same if no change of a value in it is reported. -/
theorem map_unchanged {α : Type} {change : α → α} {changes : α → Bool} {values : List α}
    (unchanged : ∀ value, changes value = false → change value = value)
    (silent : values.any changes = false) : values.map change = values := by
  rw [List.any_eq_false] at silent
  have same : ∀ value ∈ values, change value = id value :=
    fun value mem => unchanged value (by simpa using silent value mem)
  rw [List.map_congr_left same, List.map_id]

/-- Sections of which none is reported as changed stay the same. -/
theorem subChunk_unchanged {packet : SubChunk} (silent : mapping.changesSubChunk packet = false) :
    mapping.subChunk packet = packet := by
  unfold changesSubChunk at silent
  unfold subChunk
  split
  next => rfl
  next inline =>
    rw [Bool.not_eq_true] at inline
    rw [inline, Bool.not_false, Bool.true_and] at silent
    rw [map_unchanged (fun _ => subChunkEntry_unchanged) silent]

/-- The bits of a number are those that a mask lets through and the others. -/
theorem split_mask (mask data : Int32) : data &&& ~~~mask ||| data &&& mask = data := by
  rw [← Int32.toBitVec_inj]
  ext bit
  simp only [Int32.toBitVec_or, Int32.toBitVec_and, Int32.toBitVec_not, BitVec.getElem_or,
    BitVec.getElem_and, BitVec.getElem_not]
  cases mask.toBitVec[bit] <;> simp

/-- The block of a cracking event is masked before and after it is renumbered. -/
theorem crackData_unchanged {data : Int32}
    (silent : mapping.changesSignedBlock direction (data &&& crackMask) = false) :
    mapping.crackData direction data = data := by
  unfold crackData
  rw [signedBlock_unchanged silent, Int32.and_assoc, Int32.and_self]
  exact split_mask crackMask data

/-- The data of an event that are not reported as changed stay the same. -/
theorem eventData_unchanged {event data : Int32}
    (silent : mapping.changesEventData direction event data = false) :
    mapping.eventData direction event data = data := by
  unfold changesEventData at silent
  unfold eventData
  split
  next destroys =>
    rw [if_pos destroys] at silent
    exact signedBlock_unchanged silent
  next other =>
    rw [if_neg other] at silent
    split
    next cracks =>
      rw [if_pos cracks] at silent
      exact crackData_unchanged silent
    next => rfl

/-! ## Packets -/

/-- A packet that does not count as changed is the same on the other side. -/
theorem packet_unchanged {packet : Packet} (silent : mapping.changes direction packet = false) :
    mapping.packet direction packet = packet := by
  cases packet with
  | startGame packet | addPlayer packet | addItemEntity packet | removeEntity packet
  | moveEntityAbsolute packet | movePlayer packet | entityEvent packet | playerAction packet
  | setEntityData packet | setEntityMotion packet | setEntityLink packet
  | setLocalPlayerAsInitialized packet | mobEquipment packet | inventorySlot packet =>
    simp only [changes, Bool.or_eq_false_iff] at silent
    simp [Mapping.packet, runtimeId_unchanged, uniqueId_unchanged, item_unchanged, silent]
  | addEntity packet =>
    simp only [changes, Bool.or_eq_false_iff, Bool.and_eq_false_iff, decide_eq_false_iff_not]
      at silent
    obtain ⟨⟨runtime, unique⟩, block⟩ := silent
    simp only [Mapping.packet, runtimeId_unchanged runtime, uniqueId_unchanged unique]
    split
    next falls => rw [fallingBlock_unchanged (block.resolve_left (not_not_intro falls))]
    next => rfl
  | inventoryContent packet =>
    simp only [Mapping.packet, map_unchanged (fun _ => item_unchanged) silent]
  | updateBlock packet =>
    have same : mapping.block direction packet.blockId = packet.blockId := by
      simpa [changes] using silent
    simp only [Mapping.packet, same]
  | levelEvent packet =>
    simp only [Mapping.packet, eventData_unchanged silent]
  | levelSoundEvent packet =>
    simp only [changes, Bool.and_eq_false_iff] at silent
    simp only [Mapping.packet]
    split
    next carries =>
      have same := silent.resolve_left (by simp [carries])
      rw [signedBlock_unchanged same]
    next => rfl
  | levelChunk packet =>
    cases direction with
    | clientbound => exact congrArg Packet.levelChunk (levelChunk_unchanged silent)
    | serverbound => rfl
  | subChunk packet =>
    cases direction with
    | clientbound => exact congrArg Packet.subChunk (subChunk_unchanged silent)
    | serverbound => rfl
  | _ => rfl

end Mapping

end Ferry
