import Ferry.Packet.Basic
import Ferry.Proofs.Wire.TagGrammar

/-!
# Packets in canonical form

A packet is in canonical form if it holds nothing that its version does not write: a field that
the version lacks, or that an earlier field rules out, has its default, one that is called for is
there, texts and byte strings are short enough to be read, lists are short enough to be counted,
and tags are tags. Writing a packet in canonical form and reading it again gives the same packet,
and only packets in canonical form are ever read.
-/

namespace Ferry

open Layout

/-! ## Parts of packets -/

/-- Every vector of three floats is read back. -/
theorem Vector.layout_total : Vector.layout.Total :=
  Total.convert (Total.pair single_total (Total.pair single_total single_total)) fun _ => rfl

/-- Every pair of angles is read back. -/
theorem Rotation.layout_total : Rotation.layout.Total :=
  Total.convert (Total.pair single_total single_total) fun _ => rfl

/-- Every vector of three signed numbers is read back. -/
theorem IntVector.layout_total : IntVector.layout.Total :=
  Total.convert (Total.pair varInt32_total (Total.pair varInt32_total varInt32_total)) fun _ => rfl

/-- Every position of a chunk is read back. -/
theorem ChunkPosition.layout_total : ChunkPosition.layout.Total :=
  Total.convert (Total.pair varInt32_total varInt32_total) fun _ => rfl

/-- Every position of a block is read back, its height as an unsigned number. -/
theorem BlockPosition.layout_total : BlockPosition.layout.Total :=
  Total.convert (Total.pair varInt32_total (Total.pair
    (Total.convert varUInt32_total fun _ => rfl) varInt32_total)) fun _ => rfl

/-- Every identifier of two halves is read back. -/
theorem Uuid.layout_total : Uuid.layout.Total :=
  Total.convert (Total.pair uint64_total uint64_total) fun _ => rfl

/-- The stack of no item has nothing but its id. -/
def ItemStack.IsCanonical (item : ItemStack) : Prop :=
  if item.id = 0 then item = air else item.extra.length ≤ bufferLimit

/-- An item in canonical form is read back. -/
theorem ItemStack.layout_exact : ItemStack.layout.Exact ItemStack.IsCanonical := by
  have contents := Total.pairExact uint16_total (Total.pairExact varUInt32_total
    (Total.pairExact (Total.optional varInt32_total)
      (Total.pairExact varInt32_total byteArray_exact)))
  refine (Exact.chain varInt32_total fun id => contents.onlyIf).convert ?_ ?_
  · rintro ⟨id, count, damage, netId, blockId, extra⟩ canonical
    refine ⟨⟨trivial, ?_⟩, rfl⟩
    by_cases air : id = 0
    · simp_all [IsCanonical, ItemStack.air]
    · simpa [IsCanonical, air] using canonical
  · rintro ⟨id, count, damage, netId, blockId, extra⟩ ⟨-, fits⟩
    by_cases air : id = 0
    · simp_all [IsCanonical, ItemStack.air]
    · simpa [IsCanonical, air] using fits

/-- Every name of a container is read back, with its dynamic id or without one. -/
theorem ContainerName.layout_total : ContainerName.layout.Total :=
  Total.convert (Total.pair byte_total (Total.optional uint32_total)) fun _ => rfl

/-- Texts are short enough, and tags are tags. -/
def MetadataValue.IsCanonical : MetadataValue → Prop
  | .text value => IsShort value
  | .tag raw => Tag.IsTag raw
  | _ => True

namespace MetadataValue

/-- A value of metadata ends by itself, whatever type it is announced with. -/
theorem readOf_delimits (discriminant : UInt32) : (readOf discriminant).Delimits := by
  unfold readOf
  split
  · exact byte_total.delimits.map
  · exact int16_total.delimits.map
  · exact varInt32_total.delimits.map
  · exact single_total.delimits.map
  · exact text_exact.delimits.map
  · exact Tag.layout_exact.delimits.map
  · exact IntVector.layout_total.delimits.map
  · exact varInt64_total.delimits.map
  · exact Vector.layout_total.delimits.map
  · exact Reader.takes_throw.delimits

/-- The payload of a value is read back as that value. -/
theorem readOf_payload {value : MetadataValue} (canonical : value.IsCanonical) :
    readOf value.discriminant value.payload = .ok value [] := by
  cases value with
  | byte value => exact byte_total.readsMap byte trivial
  | short value => exact int16_total.readsMap short trivial
  | int value => exact varInt32_total.readsMap int trivial
  | float value => exact single_total.readsMap float trivial
  | text value => exact text_exact.readsMap text canonical
  | tag raw => exact Tag.layout_exact.readsMap tag canonical
  | block value => exact IntVector.layout_total.readsMap block trivial
  | long value => exact varInt64_total.readsMap long trivial
  | vector value => exact Vector.layout_total.readsMap vector trivial

/-- Only values in canonical form are read. -/
theorem readOf_yields (discriminant : UInt32) : (readOf discriminant).Yields IsCanonical := by
  unfold readOf
  split
  · exact byte_total.fits.map fun _ _ => trivial
  · exact int16_total.fits.map fun _ _ => trivial
  · exact varInt32_total.fits.map fun _ _ => trivial
  · exact single_total.fits.map fun _ _ => trivial
  · exact text_exact.fits.map fun _ short => short
  · exact Tag.layout_exact.fits.map fun _ isTag => isTag
  · exact IntVector.layout_total.fits.map fun _ _ => trivial
  · exact varInt64_total.fits.map fun _ _ => trivial
  · exact Vector.layout_total.fits.map fun _ _ => trivial
  · exact Reader.yields_throw

/-- A value is read back behind the type that it is announced with. -/
theorem layout_exact : layout.Exact IsCanonical where
  reads value canonical := by
    have ahead : varUInt32.read (varUInt32.write value.discriminant ++ value.payload) =
        .ok value.discriminant value.payload := varUInt32_total.readsBefore trivial _
    simp only [layout, bind, EStateM.bind, ahead, readOf_payload canonical]
  fits input value rest read := by
    simp only [layout, bind, EStateM.bind] at read
    cases ahead : varUInt32.read input with
    | error fault left => simp [ahead] at read
    | ok discriminant left =>
      simp only [ahead] at read
      exact readOf_yields discriminant _ _ _ read
  delimits := varUInt32_total.delimits.bind readOf_delimits

end MetadataValue

/-- An entry is read back if its value is. -/
theorem MetadataEntry.layout_exact : layout.Exact fun entry => entry.value.IsCanonical :=
  (Total.pairExact varUInt32_total MetadataValue.layout_exact).convert
    (fun _ canonical => ⟨canonical, rfl⟩) fun _ canonical => canonical

/-- The entries can be counted, and each value is in canonical form. -/
structure Metadata.IsCanonical (metadata : Metadata) : Prop where
  count : metadata.entries.length < UInt32.size
  values : ∀ entry ∈ metadata.entries, entry.value.IsCanonical

/-- Metadata in canonical form are read back. -/
theorem Metadata.layout_exact : layout.Exact IsCanonical :=
  MetadataEntry.layout_exact.list.convert
    (fun _ canonical => ⟨⟨canonical.count, canonical.values⟩, rfl⟩)
    fun _ ⟨count, values⟩ => ⟨count, values⟩

/-- Every property that is a number is read back. -/
theorem IntProperty.layout_total : layout.Total :=
  Total.convert (Total.pair varUInt32_total varInt32_total) fun _ => rfl

/-- Every property that is a float is read back. -/
theorem FloatProperty.layout_total : layout.Total :=
  Total.convert (Total.pair varUInt32_total single_total) fun _ => rfl

/-- The properties can be counted. -/
structure Properties.IsCanonical (properties : Properties) : Prop where
  ints : properties.ints.length < UInt32.size
  floats : properties.floats.length < UInt32.size

/-- Properties that can be counted are read back. -/
theorem Properties.layout_exact : layout.Exact IsCanonical :=
  ((Total.list IntProperty.layout_total).pair (Total.list FloatProperty.layout_total)).convert
    (fun _ canonical => ⟨⟨canonical.ints, canonical.floats⟩, rfl⟩)
    fun _ ⟨ints, floats⟩ => ⟨ints, floats⟩

/-- An attribute is read back if its name is short enough. -/
theorem Attribute.layout_exact : layout.Exact fun entry => IsShort entry.name :=
  (text_exact.pairTotal (Total.pair single_total (Total.pair single_total single_total))).convert
    (fun _ short => ⟨short, rfl⟩) fun _ short => short

/-! ## Packets of the login -/

/-- Every request for network settings is read back. -/
theorem RequestNetworkSettings.layout_total : layout.Total :=
  Total.convert int32BigEndian_total fun _ => rfl

/-- All network settings are read back. -/
theorem NetworkSettings.layout_total : layout.Total :=
  Total.convert (Total.pair uint16_total (Total.pair uint16_total (Total.pair bool_total
    (Total.pair byte_total single_total)))) fun _ => rfl

/-- A login is read back if its connection request is short enough. -/
theorem Login.layout_exact : layout.Exact fun login =>
    login.connectionRequest.length ≤ bufferLimit :=
  (Total.pairExact int32BigEndian_total byteArray_exact).convert
    (fun _ short => ⟨short, rfl⟩) fun _ short => short

/-- Every play status is read back. -/
theorem PlayStatus.layout_total : layout.Total :=
  Total.convert int32BigEndian_total fun _ => rfl

/-- A version without reasons has none, nor has a hidden screen texts, nor a version without
filtered messages such a message. -/
structure Disconnect.IsCanonical (version : Version) (packet : Disconnect) : Prop where
  reason : version.hasDisconnectReason = false → packet.reason = unknownReason
  message : if packet.hideScreen then packet.message = "" else IsShort packet.message
  filtered : if packet.hideScreen || !version.hasFilteredMessage then packet.filteredMessage = ""
    else IsShort packet.filteredMessage

/-- A disconnect in canonical form is read back. -/
theorem Disconnect.layout_exact (version : Version) :
    (layout version).Exact (IsCanonical version) := by
  refine ((Exact.onlyIf varInt32_total).pair (Exact.chain bool_total fun hidden =>
    (text_exact.pair text_exact.onlyIf).onlyIf)).convert ?_ ?_
  · rintro ⟨reason, hidden, message, filtered⟩ ⟨reasoned, short, filteredShort⟩
    refine ⟨⟨?_, trivial, ?_⟩, rfl⟩
    · cases has : version.hasDisconnectReason <;> simp_all
    · cases hidden <;> cases has : version.hasFilteredMessage <;> simp_all
  · rintro ⟨reason, hidden, message, filtered⟩ ⟨reasoned, -, texts⟩
    refine ⟨?_, ?_, ?_⟩
    · intro lacks
      simpa [lacks] using reasoned
    · cases hidden <;> simp_all
    · cases hidden <;> cases has : version.hasFilteredMessage <;> simp_all

/-- The packs on offer are kept as bytes, so all of them are read back. -/
theorem ResourcePacksInfo.layout_recovers : layout.Recovers fun _ => True :=
  rest_recovers.convert (fun _ _ => ⟨trivial, rfl⟩) fun _ _ => trivial

/-- The stack of packs is kept as bytes, so all of it is read back. -/
theorem ResourcePackStack.layout_recovers : layout.Recovers fun _ => True :=
  rest_recovers.convert (fun _ _ => ⟨trivial, rfl⟩) fun _ _ => trivial

/-- The names can be counted in two bytes, and are short enough. -/
structure ResourcePackClientResponse.IsCanonical (packet : ResourcePackClientResponse) :
    Prop where
  count : packet.packIds.length < UInt16.size
  names : ∀ name ∈ packet.packIds, IsShort name

/-- An answer about packs is read back if its names can be counted and are short enough. -/
theorem ResourcePackClientResponse.layout_exact : layout.Exact IsCanonical :=
  (Total.pairExact byte_total (text_exact.counted count16_exact)).convert
    (fun _ canonical => ⟨⟨canonical.count, canonical.names⟩, rfl⟩)
    fun _ ⟨count, names⟩ => ⟨count, names⟩

/-! ## Packets about players and entities -/

/-- The start of a game is read back if the name of its biome is short enough. -/
theorem StartGame.layout_recovers : layout.Recovers fun packet => IsShort packet.customBiomeName :=
  (Total.pairLast varInt64_total (Total.pairLast varUInt64_total (Total.pairLast varInt32_total
    (Total.pairLast Vector.layout_total (Total.pairLast Rotation.layout_total
    (Total.pairLast uint64_total (Total.pairLast int16_total (text_exact.pairLast
    (Total.pairLast varInt32_total rest_recovers))))))))).convert
    (fun _ short => ⟨⟨short, trivial⟩, rfl⟩) fun _ ⟨short, _⟩ => short

/-- Every word that the player has spawned is read back. -/
theorem SetLocalPlayerAsInitialized.layout_total : layout.Total :=
  Total.convert varUInt64_total fun _ => rfl

/-- Every request for a radius is read back. -/
theorem RequestChunkRadius.layout_total : layout.Total :=
  Total.convert (Total.pair varInt32_total byte_total) fun _ => rfl

/-- Every new radius is read back. -/
theorem ChunkRadiusUpdated.layout_total : layout.Total :=
  Total.convert varInt32_total fun _ => rfl

/-- Every action of a player is read back. -/
theorem PlayerAction.layout_recovers : layout.Recovers fun _ => True :=
  (Total.pairLast varUInt64_total (Total.pairLast varInt32_total rest_recovers)).convert
    (fun _ _ => ⟨trivial, rfl⟩) fun _ _ => trivial

/-- Every move of a player is read back. -/
theorem MovePlayer.layout_recovers : layout.Recovers fun _ => True :=
  (Total.pairLast varUInt64_total (Total.pairLast Vector.layout_total
    (Total.pairLast single_total (Total.pairLast single_total (Total.pairLast single_total
    (Total.pairLast byte_total (Total.pairLast bool_total (Total.pairLast varUInt64_total
    rest_recovers)))))))).convert
    (fun _ _ => ⟨trivial, rfl⟩) fun _ _ => trivial

/-- The names are short enough, and the item, the metadata and the properties are in canonical
form. -/
structure AddPlayer.IsCanonical (packet : AddPlayer) : Prop where
  username : IsShort packet.username
  platformChatId : IsShort packet.platformChatId
  heldItem : packet.heldItem.IsCanonical
  metadata : packet.metadata.IsCanonical
  properties : packet.properties.IsCanonical

/-- A player in canonical form is read back. -/
theorem AddPlayer.layout_recovers : layout.Recovers IsCanonical :=
  (Total.pairLast Uuid.layout_total (text_exact.pairLast (Total.pairLast varUInt64_total
    (text_exact.pairLast (Total.pairLast Vector.layout_total (Total.pairLast Vector.layout_total
    (Total.pairLast single_total (Total.pairLast single_total (Total.pairLast single_total
    (ItemStack.layout_exact.pairLast (Total.pairLast varInt32_total
    (Metadata.layout_exact.pairLast (Properties.layout_exact.pairLast
    (Total.pairLast int64_total rest_recovers)))))))))))))).convert
    (fun _ canonical => ⟨⟨canonical.username, canonical.platformChatId, canonical.heldItem,
      canonical.metadata, canonical.properties, trivial⟩, rfl⟩)
    fun _ ⟨username, platformChatId, heldItem, metadata, properties, _⟩ =>
      ⟨username, platformChatId, heldItem, metadata, properties⟩

/-- Whether a change of the list of players can be counted. -/
def PlayerList.IsCanonical : PlayerList → Prop
  | .add _ => True
  | .remove uuids => uuids.length < UInt32.size

/-- Only changes of the list that could be counted are read. -/
theorem PlayerList.readOf_yields (discriminant : UInt8) :
    (readOf discriminant).Yields IsCanonical := by
  unfold readOf
  split
  · exact rest_recovers.fits.map fun _ _ => trivial
  · split
    · exact (Total.list Uuid.layout_total).fits.map fun _ count => count
    · exact Reader.yields_throw

/-- A change of the list is read back: names that are added are kept as bytes. -/
theorem PlayerList.layout_recovers : layout.Recovers IsCanonical where
  reads packet canonical := by
    cases packet with
    | add entries => rfl
    | remove uuids => exact (Total.list Uuid.layout_total).readsMap remove canonical
  fits input packet rest read := by
    cases input with
    | nil => cases read
    | cons discriminant input => exact readOf_yields discriminant _ _ _ read

/-- What is held is read back if the item is. -/
theorem MobEquipment.layout_exact : layout.Exact fun packet => packet.item.IsCanonical :=
  (Total.pairExact varUInt64_total (ItemStack.layout_exact.pairTotal
    (Total.pair byte_total (Total.pair byte_total byte_total)))).convert
    (fun _ canonical => ⟨canonical, rfl⟩) fun _ canonical => canonical

/-- The type is short enough, the attributes can be counted and have short names, and the
metadata are in canonical form. -/
structure AddEntity.IsCanonical (packet : AddEntity) : Prop where
  entityType : IsShort packet.entityType
  count : packet.attributes.length < UInt32.size
  names : ∀ entry ∈ packet.attributes, IsShort entry.name
  metadata : packet.metadata.IsCanonical

/-- An entity in canonical form is read back. -/
theorem AddEntity.layout_recovers : layout.Recovers IsCanonical :=
  (Total.pairLast varInt64_total (Total.pairLast varUInt64_total (text_exact.pairLast
    (Total.pairLast Vector.layout_total (Total.pairLast Vector.layout_total
    (Total.pairLast single_total (Total.pairLast single_total (Total.pairLast single_total
    (Total.pairLast single_total (Attribute.layout_exact.list.pairLast
    (Metadata.layout_exact.pairLast rest_recovers))))))))))).convert
    (fun _ canonical => ⟨⟨canonical.entityType, ⟨canonical.count, canonical.names⟩,
      canonical.metadata, trivial⟩, rfl⟩)
    fun _ ⟨entityType, ⟨count, names⟩, metadata, _⟩ => ⟨entityType, count, names, metadata⟩

/-- Every removal of an entity is read back. -/
theorem RemoveEntity.layout_total : layout.Total :=
  Total.convert varInt64_total fun _ => rfl

/-- An item that lies about is read back if the item is. -/
theorem AddItemEntity.layout_recovers : layout.Recovers fun packet => packet.item.IsCanonical :=
  (Total.pairLast varInt64_total (Total.pairLast varUInt64_total
    (ItemStack.layout_exact.pairLast rest_recovers))).convert
    (fun _ canonical => ⟨⟨canonical, trivial⟩, rfl⟩) fun _ ⟨canonical, _⟩ => canonical

/-- Every move of an entity is read back. -/
theorem MoveEntityAbsolute.layout_recovers : layout.Recovers fun _ => True :=
  (Total.pairLast varUInt64_total rest_recovers).convert
    (fun _ _ => ⟨trivial, rfl⟩) fun _ _ => trivial

/-- Every event of an entity is read back. -/
theorem EntityEvent.layout_total : layout.Total :=
  Total.convert (Total.pair varUInt64_total (Total.pair byte_total varInt32_total)) fun _ => rfl

/-- The data of an entity are read back if its metadata are. -/
theorem SetEntityData.layout_recovers : layout.Recovers fun packet => packet.metadata.IsCanonical :=
  (Total.pairLast varUInt64_total (Metadata.layout_exact.pairLast rest_recovers)).convert
    (fun _ canonical => ⟨⟨canonical, trivial⟩, rfl⟩) fun _ ⟨canonical, _⟩ => canonical

/-- Every motion of an entity is read back. -/
theorem SetEntityMotion.layout_recovers : layout.Recovers fun _ => True :=
  (Total.pairLast varUInt64_total (Total.pairLast Vector.layout_total rest_recovers)).convert
    (fun _ _ => ⟨trivial, rfl⟩) fun _ _ => trivial

/-- Every link between two entities is read back. -/
theorem SetEntityLink.layout_recovers : layout.Recovers fun _ => True :=
  (Total.pairLast varInt64_total (Total.pairLast varInt64_total (Total.pairLast byte_total
    (Total.pairLast bool_total (Total.pairLast bool_total rest_recovers))))).convert
    (fun _ _ => ⟨trivial, rfl⟩) fun _ _ => trivial

/-! ## Packets about containers and the world -/

/-- The items can be counted, and each is in canonical form. -/
structure InventoryContent.IsCanonical (packet : InventoryContent) : Prop where
  count : packet.items.length < UInt32.size
  items : ∀ item ∈ packet.items, item.IsCanonical

/-- The content of an inventory in canonical form is read back. -/
theorem InventoryContent.layout_recovers : layout.Recovers IsCanonical :=
  (Total.pairLast varUInt32_total (ItemStack.layout_exact.list.pairLast rest_recovers)).convert
    (fun _ canonical => ⟨⟨⟨canonical.count, canonical.items⟩, trivial⟩, rfl⟩)
    fun _ ⟨⟨count, items⟩, _⟩ => ⟨count, items⟩

/-- The address of the container is there exactly in versions that carry it. -/
structure InventorySlot.IsCanonical (version : Version) (packet : InventorySlot) : Prop where
  name : packet.containerName.isSome = version.hasFullContainerName
  size : version.hasFullContainerName = false → packet.dynamicContainerSize = 0
  item : packet.item.IsCanonical

/-- A slot in canonical form is read back. -/
theorem InventorySlot.layout_exact (version : Version) :
    (layout version).Exact (IsCanonical version) := by
  have name := Total.present ContainerName.layout_total ⟨0, none⟩
  refine (Total.pairExact varUInt32_total (Total.pairExact varUInt32_total
    ((Exact.onlyIf (name.pairTotal varUInt32_total)).pair ItemStack.layout_exact))).convert ?_ ?_
  · rintro ⟨windowId, slot, name, size, item⟩ ⟨named, sized, canonical⟩
    refine ⟨⟨?_, canonical⟩, rfl⟩
    cases has : version.hasFullContainerName <;> simp_all
  · rintro ⟨windowId, slot, ⟨name, size⟩, item⟩ ⟨address, canonical⟩
    refine ⟨?_, ?_, canonical⟩
    · cases has : version.hasFullContainerName <;> simp_all
    · intro lacks
      simp_all

/-- Every change of a block is read back. -/
theorem UpdateBlock.layout_total : layout.Total :=
  Total.convert (Total.pair BlockPosition.layout_total (Total.pair varUInt32_total
    (Total.pair varUInt32_total varUInt32_total))) fun _ => rfl

/-- The dimension is there only in versions that carry it, and the height exactly where the count
announces it. -/
structure LevelChunk.IsCanonical (version : Version) (packet : LevelChunk) : Prop where
  dimension : version.hasChunkDimension = false → packet.dimension = 0
  height : packet.highestSubChunk.isSome = true ↔ packet.subChunkCount = requestLimited
  blobs : ∀ ids ∈ packet.blobIds, ids.length < UInt32.size
  data : packet.data.length ≤ bufferLimit

/-- A chunk in canonical form is read back. -/
theorem LevelChunk.layout_exact (version : Version) :
    (layout version).Exact (IsCanonical version) := by
  refine (Total.pairExact varInt32_total (Total.pairExact varInt32_total
    ((Exact.onlyIf varInt32_total).pair ((Exact.chain varUInt32_total fun count =>
      (Total.present uint16_total 0).onlyIf).pair
    ((Exact.optional (Total.list uint64_total)).pair byteArray_exact))))).convert ?_ ?_
  · rintro ⟨x, z, dimension, count, height, blobs, data⟩ ⟨dimensioned, high, counted, short⟩
    refine ⟨⟨?_, ⟨trivial, ?_⟩, counted, short⟩, rfl⟩
    · cases has : version.hasChunkDimension <;> simp_all
    · by_cases limited : count = requestLimited <;> simp_all
  · rintro ⟨x, z, dimension, ⟨count, height⟩, blobs, data⟩
      ⟨dimensioned, ⟨-, high⟩, counted, short⟩
    refine ⟨?_, ?_, counted, short⟩
    · intro lacks
      simpa [lacks] using dimensioned
    · by_cases limited : count = requestLimited <;> simp_all

/-- The payload, the height map and the hash are there exactly where they are called for. -/
structure SubChunkEntry.IsCanonical (cached : Bool) (entry : SubChunkEntry) : Prop where
  payload : if hasPayload entry.result cached then entry.payload.length ≤ bufferLimit
    else entry.payload = []
  heightMap : if entry.heightMapType = heightMapHasData then entry.heightMap.length = heightMapSize
    else entry.heightMap = []
  hash : entry.blobHash.isSome = cached

/-- A section in canonical form is read back. -/
theorem SubChunkEntry.layout_exact (cached : Bool) :
    (layout cached).Exact (IsCanonical cached) := by
  refine (Total.pairExact int8_total (Total.pairExact int8_total (Total.pairExact int8_total
    ((Exact.chain byte_total fun result => byteArray_exact.onlyIf).pair
    ((Exact.chain byte_total fun type => (bytesOf_exact heightMapSize).onlyIf).pair
    (Total.present uint64_total 0).onlyIf))))).convert ?_ ?_
  · rintro ⟨x, y, z, result, payload, heightMapType, heightMap, hash⟩ ⟨paid, mapped, hashed⟩
    refine ⟨⟨⟨trivial, paid⟩, ⟨trivial, by simpa using mapped⟩, ?_⟩, rfl⟩
    cases cached <;> simp_all
  · rintro ⟨x, y, z, ⟨result, payload⟩, ⟨heightMapType, heightMap⟩, hash⟩
      ⟨⟨-, paid⟩, ⟨-, mapped⟩, hashed⟩
    refine ⟨paid, by simpa using mapped, ?_⟩
    cases cached <;> simp_all

/-- The entries can be counted, and each is in canonical form. -/
structure SubChunk.IsCanonical (packet : SubChunk) : Prop where
  count : packet.entries.length < UInt32.size
  entries : ∀ entry ∈ packet.entries, entry.IsCanonical packet.cacheEnabled

/-- Sections that can be counted are read back if each of them is. -/
theorem SubChunk.layout_exact : layout.Exact IsCanonical :=
  (Exact.chain bool_total fun cached => Total.pairExact varInt32_total
    (Total.pairExact IntVector.layout_total
      ((SubChunkEntry.layout_exact cached).counted count32_exact))).convert
    (fun _ canonical => ⟨⟨trivial, canonical.count, canonical.entries⟩, rfl⟩)
    fun _ ⟨_, count, entries⟩ => ⟨count, entries⟩

/-- A change of dimension is read back unless it names a loading screen in a version without them.
-/
theorem ChangeDimension.layout_exact (version : Version) : (layout version).Exact fun packet =>
    version.hasLoadingScreenId = false → packet.loadingScreenId = none := by
  refine (Total.pairExact varInt32_total (Total.pairExact Vector.layout_total
    (Total.pairExact bool_total (Exact.onlyIf (Total.optional uint32_total))))).convert ?_ ?_
  · rintro ⟨dimension, position, respawn, screen⟩ canonical
    refine ⟨?_, rfl⟩
    cases has : version.hasLoadingScreenId <;> simp_all
  · rintro ⟨dimension, position, respawn, screen⟩ fits lacks
    simpa [lacks] using fits

/-- The chunks around a place are read back if they can be counted. -/
theorem NetworkChunkPublisherUpdate.layout_exact : layout.Exact fun packet =>
    packet.savedChunks.length < UInt32.size :=
  (Total.pairExact BlockPosition.layout_total (Total.pairExact varUInt32_total
    (Exact.counted ChunkPosition.layout_total count32_exact))).convert
    (fun _ count => ⟨⟨count, fun _ _ => trivial⟩, rfl⟩) fun _ ⟨count, _⟩ => count

/-! ## Packets about sights and sounds -/

/-- Every event of a level is read back. -/
theorem LevelEvent.layout_total : layout.Total :=
  Total.convert (Total.pair varInt32_total (Total.pair Vector.layout_total varInt32_total))
    fun _ => rfl

/-- Every sound of a level is read back. -/
theorem LevelSoundEvent.layout_recovers : layout.Recovers fun _ => True :=
  (Total.pairLast varUInt32_total (Total.pairLast Vector.layout_total
    (Total.pairLast varInt32_total rest_recovers))).convert
    (fun _ _ => ⟨trivial, rfl⟩) fun _ _ => trivial

/-- Every generic event is read back: its data are kept as bytes. -/
theorem LevelEventGeneric.layout_recovers : layout.Recovers fun _ => True :=
  (Total.pairLast varInt32_total rest_recovers).convert
    (fun _ _ => ⟨trivial, rfl⟩) fun _ _ => trivial

/-- The name is short enough, and the music flag is set only in versions that have it. -/
structure StopSound.IsCanonical (version : Version) (packet : StopSound) : Prop where
  name : IsShort packet.soundName
  music : version.hasStopMusicFlag = false → packet.stopMusic = false

/-- The end of a sound in canonical form is read back. -/
theorem StopSound.layout_exact (version : Version) :
    (layout version).Exact (IsCanonical version) := by
  refine (text_exact.pair (Total.pairExact bool_total (Exact.onlyIf bool_total))).convert ?_ ?_
  · rintro ⟨name, stopAll, music⟩ ⟨short, silent⟩
    refine ⟨⟨short, ?_⟩, rfl⟩
    cases has : version.hasStopMusicFlag <;> simp_all
  · rintro ⟨name, stopAll, music⟩ ⟨short, silent⟩
    refine ⟨short, fun lacks => ?_⟩
    simpa [lacks] using silent

/-! ## All packets -/

/-- The kinds of packets that are looked into. -/
def PacketId.known : List PacketId :=
  [login, playStatus, disconnect, resourcePacksInfo, resourcePackStack,
   resourcePackClientResponse, startGame, addPlayer, addEntity, removeEntity,
   addItemEntity, moveEntityAbsolute, movePlayer, updateBlock, levelEvent, entityEvent,
   mobEquipment, playerAction, setEntityData, setEntityMotion, setEntityLink,
   inventoryContent, inventorySlot, levelChunk, changeDimension, playerList,
   requestChunkRadius, chunkRadiusUpdated, stopSound, setLocalPlayerAsInitialized,
   networkChunkPublisherUpdate, levelSoundEvent, levelEventGeneric, networkSettings,
   subChunk, requestNetworkSettings]

/-- Whether a packet holds nothing that its version does not write. A packet that is kept as the
bytes of its body is of no kind that is looked into. -/
def Packet.IsCanonical (version : Version) : Packet → Prop
  | .login packet => packet.connectionRequest.length ≤ bufferLimit
  | .disconnect packet => packet.IsCanonical version
  | .resourcePackClientResponse packet => packet.IsCanonical
  | .startGame packet => IsShort packet.customBiomeName
  | .addPlayer packet => packet.IsCanonical
  | .addEntity packet => packet.IsCanonical
  | .addItemEntity packet => packet.item.IsCanonical
  | .mobEquipment packet => packet.item.IsCanonical
  | .setEntityData packet => packet.metadata.IsCanonical
  | .inventoryContent packet => packet.IsCanonical
  | .inventorySlot packet => packet.IsCanonical version
  | .levelChunk packet => packet.IsCanonical version
  | .changeDimension packet => version.hasLoadingScreenId = false → packet.loadingScreenId = none
  | .playerList packet => packet.IsCanonical
  | .stopSound packet => packet.IsCanonical version
  | .networkChunkPublisherUpdate packet => packet.savedChunks.length < UInt32.size
  | .subChunk packet => packet.IsCanonical
  | .unknown id _ => id ∉ PacketId.known
  | _ => True

namespace Packet

variable {version : Version}

/-- Only packets in canonical form are read, and of the kind that is asked for. -/
theorem reader_yields (id : PacketId) : (reader version id).Yields fun packet =>
    packet.IsCanonical version ∧ packet.id = id := by
  unfold reader
  split
  · exact Login.layout_exact.fits.map fun _ fits => ⟨fits, rfl⟩
  · exact PlayStatus.layout_total.fits.map fun _ fits => ⟨fits, rfl⟩
  · exact (Disconnect.layout_exact version).fits.map fun _ fits => ⟨fits, rfl⟩
  · exact ResourcePacksInfo.layout_recovers.fits.map fun _ fits => ⟨fits, rfl⟩
  · exact ResourcePackStack.layout_recovers.fits.map fun _ fits => ⟨fits, rfl⟩
  · exact ResourcePackClientResponse.layout_exact.fits.map fun _ fits => ⟨fits, rfl⟩
  · exact StartGame.layout_recovers.fits.map fun _ fits => ⟨fits, rfl⟩
  · exact AddPlayer.layout_recovers.fits.map fun _ fits => ⟨fits, rfl⟩
  · exact AddEntity.layout_recovers.fits.map fun _ fits => ⟨fits, rfl⟩
  · exact RemoveEntity.layout_total.fits.map fun _ fits => ⟨fits, rfl⟩
  · exact AddItemEntity.layout_recovers.fits.map fun _ fits => ⟨fits, rfl⟩
  · exact MoveEntityAbsolute.layout_recovers.fits.map fun _ fits => ⟨fits, rfl⟩
  · exact MovePlayer.layout_recovers.fits.map fun _ fits => ⟨fits, rfl⟩
  · exact UpdateBlock.layout_total.fits.map fun _ fits => ⟨fits, rfl⟩
  · exact LevelEvent.layout_total.fits.map fun _ fits => ⟨fits, rfl⟩
  · exact EntityEvent.layout_total.fits.map fun _ fits => ⟨fits, rfl⟩
  · exact MobEquipment.layout_exact.fits.map fun _ fits => ⟨fits, rfl⟩
  · exact PlayerAction.layout_recovers.fits.map fun _ fits => ⟨fits, rfl⟩
  · exact SetEntityData.layout_recovers.fits.map fun _ fits => ⟨fits, rfl⟩
  · exact SetEntityMotion.layout_recovers.fits.map fun _ fits => ⟨fits, rfl⟩
  · exact SetEntityLink.layout_recovers.fits.map fun _ fits => ⟨fits, rfl⟩
  · exact InventoryContent.layout_recovers.fits.map fun _ fits => ⟨fits, rfl⟩
  · exact (InventorySlot.layout_exact version).fits.map fun _ fits => ⟨fits, rfl⟩
  · exact (LevelChunk.layout_exact version).fits.map fun _ fits => ⟨fits, rfl⟩
  · exact (ChangeDimension.layout_exact version).fits.map fun _ fits => ⟨fits, rfl⟩
  · exact PlayerList.layout_recovers.fits.map fun _ fits => ⟨fits, rfl⟩
  · exact RequestChunkRadius.layout_total.fits.map fun _ fits => ⟨fits, rfl⟩
  · exact ChunkRadiusUpdated.layout_total.fits.map fun _ fits => ⟨fits, rfl⟩
  · exact (StopSound.layout_exact version).fits.map fun _ fits => ⟨fits, rfl⟩
  · exact SetLocalPlayerAsInitialized.layout_total.fits.map fun _ fits => ⟨fits, rfl⟩
  · exact NetworkChunkPublisherUpdate.layout_exact.fits.map fun _ fits => ⟨fits, rfl⟩
  · exact LevelSoundEvent.layout_recovers.fits.map fun _ fits => ⟨fits, rfl⟩
  · exact LevelEventGeneric.layout_recovers.fits.map fun _ fits => ⟨fits, rfl⟩
  · exact NetworkSettings.layout_total.fits.map fun _ fits => ⟨fits, rfl⟩
  · exact SubChunk.layout_exact.fits.map fun _ fits => ⟨fits, rfl⟩
  · exact RequestNetworkSettings.layout_total.fits.map fun _ fits => ⟨fits, rfl⟩
  next =>
    refine rest_recovers.fits.map fun body _ => ⟨?_, rfl⟩
    simp only [IsCanonical, PacketId.known, List.mem_cons, List.not_mem_nil, or_false, not_or]
    and_intros <;> assumption

/-- A packet of any other kind is read as the bytes of its body. -/
theorem reader_unknown {id : PacketId} (other : id ∉ PacketId.known) :
    reader version id = unknown id <$> Reader.rest := by
  unfold reader
  split
  case h_37 => rfl
  all_goals exact absurd (by decide) other

/-- What is written of a packet in canonical form is read as that packet. -/
theorem reader_body (packet : Packet) (canonical : packet.IsCanonical version) :
    reader version packet.id (packet.body version) = .ok packet [] := by
  cases packet with
  | login packet => exact Login.layout_exact.readsMap login canonical
  | playStatus packet => exact PlayStatus.layout_total.readsMap playStatus trivial
  | disconnect packet => exact (Disconnect.layout_exact version).readsMap disconnect canonical
  | resourcePacksInfo packet =>
    exact ResourcePacksInfo.layout_recovers.readsMap resourcePacksInfo trivial
  | resourcePackStack packet =>
    exact ResourcePackStack.layout_recovers.readsMap resourcePackStack trivial
  | resourcePackClientResponse packet =>
    exact ResourcePackClientResponse.layout_exact.readsMap resourcePackClientResponse canonical
  | startGame packet => exact StartGame.layout_recovers.readsMap startGame canonical
  | addPlayer packet => exact AddPlayer.layout_recovers.readsMap addPlayer canonical
  | addEntity packet => exact AddEntity.layout_recovers.readsMap addEntity canonical
  | removeEntity packet => exact RemoveEntity.layout_total.readsMap removeEntity trivial
  | addItemEntity packet => exact AddItemEntity.layout_recovers.readsMap addItemEntity canonical
  | moveEntityAbsolute packet =>
    exact MoveEntityAbsolute.layout_recovers.readsMap moveEntityAbsolute trivial
  | movePlayer packet => exact MovePlayer.layout_recovers.readsMap movePlayer trivial
  | updateBlock packet => exact UpdateBlock.layout_total.readsMap updateBlock trivial
  | levelEvent packet => exact LevelEvent.layout_total.readsMap levelEvent trivial
  | entityEvent packet => exact EntityEvent.layout_total.readsMap entityEvent trivial
  | mobEquipment packet => exact MobEquipment.layout_exact.readsMap mobEquipment canonical
  | playerAction packet => exact PlayerAction.layout_recovers.readsMap playerAction trivial
  | setEntityData packet => exact SetEntityData.layout_recovers.readsMap setEntityData canonical
  | setEntityMotion packet => exact SetEntityMotion.layout_recovers.readsMap setEntityMotion trivial
  | setEntityLink packet => exact SetEntityLink.layout_recovers.readsMap setEntityLink trivial
  | inventoryContent packet =>
    exact InventoryContent.layout_recovers.readsMap inventoryContent canonical
  | inventorySlot packet =>
    exact (InventorySlot.layout_exact version).readsMap inventorySlot canonical
  | levelChunk packet => exact (LevelChunk.layout_exact version).readsMap levelChunk canonical
  | changeDimension packet =>
    exact (ChangeDimension.layout_exact version).readsMap changeDimension canonical
  | playerList packet => exact PlayerList.layout_recovers.readsMap playerList canonical
  | requestChunkRadius packet =>
    exact RequestChunkRadius.layout_total.readsMap requestChunkRadius trivial
  | chunkRadiusUpdated packet =>
    exact ChunkRadiusUpdated.layout_total.readsMap chunkRadiusUpdated trivial
  | stopSound packet => exact (StopSound.layout_exact version).readsMap stopSound canonical
  | setLocalPlayerAsInitialized packet =>
    exact SetLocalPlayerAsInitialized.layout_total.readsMap setLocalPlayerAsInitialized trivial
  | networkChunkPublisherUpdate packet =>
    exact NetworkChunkPublisherUpdate.layout_exact.readsMap networkChunkPublisherUpdate canonical
  | levelSoundEvent packet => exact LevelSoundEvent.layout_recovers.readsMap levelSoundEvent trivial
  | levelEventGeneric packet =>
    exact LevelEventGeneric.layout_recovers.readsMap levelEventGeneric trivial
  | networkSettings packet => exact NetworkSettings.layout_total.readsMap networkSettings trivial
  | subChunk packet => exact SubChunk.layout_exact.readsMap subChunk canonical
  | requestNetworkSettings packet =>
    exact RequestNetworkSettings.layout_total.readsMap requestNetworkSettings trivial
  | unknown id body =>
    change reader version id body = _
    rw [reader_unknown canonical]
    rfl

/-- A body is read as a packet when all of it is. -/
theorem decode_eq_ok_iff {id : PacketId} {body : Bytes} {packet : Packet} :
    decode version id body = .ok packet ↔ reader version id body = .ok packet [] :=
  Reader.valueOf_whole

/-- A body is read as a packet of the kind that its header names. -/
theorem decode_id {id : PacketId} {body : Bytes} {packet : Packet}
    (decoded : decode version id body = .ok packet) : packet.id = id :=
  (reader_yields id _ _ _ (decode_eq_ok_iff.mp decoded)).2

/-- A body that is read as a packet is one of the kind that was asked for, and what is written of
that packet is read as the same packet again. And every packet in canonical form, of whatever
kind, is read back from what is written of it. -/
theorem decode_recovers (version : Version) :
    (∀ id body packet, decode version id body = .ok packet →
      packet.id = id ∧ packet.IsCanonical version ∧
        decode version id (packet.body version) = .ok packet) ∧
    ∀ packet : Packet, packet.IsCanonical version →
      decode version packet.id (packet.body version) = .ok packet := by
  have recovers (packet : Packet) (canonical : packet.IsCanonical version) :
      decode version packet.id (packet.body version) = .ok packet :=
    decode_eq_ok_iff.mpr (reader_body packet canonical)
  refine ⟨?_, recovers⟩
  intro id body packet decoded
  have kind := decode_id decoded
  have canonical := (reader_yields id _ _ _ (decode_eq_ok_iff.mp decoded)).1
  exact ⟨kind, canonical, kind ▸ recovers packet canonical⟩

/-- Metadata with a tag and a pattern that stands for no number, in an old version, and a slot of
a container, in a new one. -/
theorem decode_recovers_metadata :
    let entity : Packet :=
      .setEntityData ⟨5, ⟨[⟨7, .tag [10, 0, 0]⟩, ⟨1, .float ⟨0x7fc00001⟩⟩]⟩, [0xab]⟩
    let body : Bytes := [5, 2, 7, 5, 10, 0, 0, 1, 3, 1, 0, 0xc0, 0x7f, 0xab]
    let slot : Packet := .inventorySlot ⟨1, 2, some ⟨3, some 4⟩, 5, ItemStack.air⟩
    decode .v582 PacketId.setEntityData body = .ok entity ∧
      decode .v582 PacketId.setEntityData (entity.body .v582) = .ok entity ∧
      slot.IsCanonical .v712 ∧
      decode .v712 PacketId.inventorySlot (slot.body .v712) = .ok slot := by
  intro entity body slot
  have decoded : decode .v582 PacketId.setEntityData body = .ok entity := by rfl
  have canonical : slot.IsCanonical .v712 :=
    ⟨rfl, fun lacks => absurd lacks (by decide), by simp [ItemStack.IsCanonical, ItemStack.air]⟩
  exact ⟨decoded, ((decode_recovers .v582).1 _ _ _ decoded).2.2, canonical,
    (decode_recovers .v712).2 slot canonical⟩

end Packet

end Ferry
