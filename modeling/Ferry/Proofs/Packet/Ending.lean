import Ferry.Proofs.Packet.Canonical

/-!
# Where a packet ends

Most packets say themselves where they end, field by field, whatever stands behind them. The
others go on with a rest, which is all that is left of the body, behind a front that ends by itself.
So a body that is cut off is taken for no packet, unless it is cut off within a rest; and what is
added to a body is either found to be too much or added to the rest.
-/

namespace Ferry

/-! ## Readers that take all that is left -/

namespace Reader

variable {α β : Type} {reader : Reader α} {put : Bytes → α → α}

/-- Behind a front that ends by itself, a reader takes all that is left and puts it into the value
as it is. -/
def Absorbs (reader : Reader α) (put : Bytes → α → α) : Prop :=
  ∀ input value left, reader input = .ok value left → left = [] ∧ ∃ front rest,
    input = front ++ rest ∧ ∀ other, reader (front ++ other) = .ok (put other value) []

/-- The reader of the rest takes everything and has no front. -/
theorem rest_absorbs : rest.Absorbs fun other _ => other := by
  intro input value left read
  cases read
  exact ⟨rfl, [], input, rfl, fun _ => rfl⟩

/-- A value that is changed after it was read keeps its rest. -/
theorem Absorbs.map {change : α → β} {putInto : Bytes → β → β} (absorbs : reader.Absorbs put)
    (same : ∀ other value, putInto other (change value) = change (put other value)) :
    (change <$> reader).Absorbs putInto := by
  intro input result left read
  obtain ⟨value, ran, rfl⟩ := map_eq_ok_iff.mp read
  obtain ⟨ended, front, rest, whole, reads⟩ := absorbs input value left ran
  exact ⟨ended, front, rest, whole,
    fun other => map_eq_ok_iff.mpr ⟨_, reads other, same other value⟩⟩

/-- What ends by itself is part of the front. -/
theorem Delimits.bindAbsorbs {next : α → Reader β} {putInto : Bytes → β → β}
    (first : reader.Delimits) (second : ∀ value, (next value).Absorbs putInto) :
    (reader >>= next).Absorbs putInto := by
  intro input result left read
  obtain ⟨value, unread, ran, went⟩ := bind_eq_ok_iff.mp read
  obtain ⟨taken, rfl, takes⟩ := first input value unread ran
  obtain ⟨ended, front, rest, rfl, reads⟩ := second value unread result left went
  refine ⟨ended, taken ++ front, rest, (List.append_assoc taken front rest).symm, fun other => ?_⟩
  rw [List.append_assoc]
  exact bind_eq_ok_iff.mpr ⟨value, front ++ other, takes _, reads other⟩

/-- A reader that leaves something of a body has not read all of it. -/
theorem valueOf_whole_left {body left : Bytes} {value : α} (read : reader body = .ok value left)
    (remains : left ≠ []) : (whole reader).valueOf body = .error (.trailingBytes left.length) := by
  obtain ⟨first, more, rfl⟩ := List.exists_cons_of_ne_nil remains
  simp [valueOf, whole, bind, EStateM.bind, read, finish]

end Reader

namespace Layout

variable {α β : Type} {first : Layout α} {second : Layout β} {fits : α → Prop}
  {put : Bytes → β → β}

/-- Fields that end by themselves stand in front of the rest. -/
theorem Exact.pairAbsorbs (exact : first.Exact fits) (absorbs : second.read.Absorbs put) :
    (first.pair second).read.Absorbs fun other value => (value.1, put other value.2) := by
  refine exact.delimits.bindAbsorbs fun left => ?_
  rw [bind_pure_comp]
  exact absorbs.map fun _ _ => rfl

end Layout

open Layout

/-! ## Packets with a rest -/

/-- The packs on offer are all rest. -/
theorem ResourcePacksInfo.layout_absorbs :
    layout.read.Absorbs fun other packet => { packet with body := other } :=
  Reader.rest_absorbs.map fun _ _ => rfl

/-- The stack of packs is all rest. -/
theorem ResourcePackStack.layout_absorbs :
    layout.read.Absorbs fun other packet => { packet with body := other } :=
  Reader.rest_absorbs.map fun _ _ => rfl

/-- Behind the dimension of a start of a game stands a rest. -/
theorem StartGame.layout_absorbs :
    layout.read.Absorbs fun other packet => { packet with rest := other } :=
  (varInt64_total.pairAbsorbs (varUInt64_total.pairAbsorbs (varInt32_total.pairAbsorbs
    (Vector.layout_total.pairAbsorbs (Rotation.layout_total.pairAbsorbs
    (uint64_total.pairAbsorbs (int16_total.pairAbsorbs (text_exact.pairAbsorbs
    (varInt32_total.pairAbsorbs Reader.rest_absorbs))))))))).map fun _ _ => rfl

/-- Behind the player and the action stands a rest. -/
theorem PlayerAction.layout_absorbs :
    layout.read.Absorbs fun other packet => { packet with rest := other } :=
  (varUInt64_total.pairAbsorbs (varInt32_total.pairAbsorbs Reader.rest_absorbs)).map
    fun _ _ => rfl

/-- Behind the move and what the player rides on stands a rest. -/
theorem MovePlayer.layout_absorbs :
    layout.read.Absorbs fun other packet => { packet with rest := other } :=
  (varUInt64_total.pairAbsorbs (Vector.layout_total.pairAbsorbs (single_total.pairAbsorbs
    (single_total.pairAbsorbs (single_total.pairAbsorbs (byte_total.pairAbsorbs
    (bool_total.pairAbsorbs (varUInt64_total.pairAbsorbs Reader.rest_absorbs)))))))).map
    fun _ _ => rfl

/-- Behind the fields of a player, the last its own id, stands a rest. -/
theorem AddPlayer.layout_absorbs :
    layout.read.Absorbs fun other packet => { packet with rest := other } :=
  (Uuid.layout_total.pairAbsorbs (text_exact.pairAbsorbs (varUInt64_total.pairAbsorbs
    (text_exact.pairAbsorbs (Vector.layout_total.pairAbsorbs (Vector.layout_total.pairAbsorbs
    (single_total.pairAbsorbs (single_total.pairAbsorbs (single_total.pairAbsorbs
    (ItemStack.layout_exact.pairAbsorbs (varInt32_total.pairAbsorbs
    (Metadata.layout_exact.pairAbsorbs (Properties.layout_exact.pairAbsorbs
    (int64_total.pairAbsorbs Reader.rest_absorbs)))))))))))))).map fun _ _ => rfl

/-- Behind the metadata of an entity stands a rest. -/
theorem AddEntity.layout_absorbs :
    layout.read.Absorbs fun other packet => { packet with rest := other } :=
  (varInt64_total.pairAbsorbs (varUInt64_total.pairAbsorbs (text_exact.pairAbsorbs
    (Vector.layout_total.pairAbsorbs (Vector.layout_total.pairAbsorbs (single_total.pairAbsorbs
    (single_total.pairAbsorbs (single_total.pairAbsorbs (single_total.pairAbsorbs
    (Attribute.layout_exact.list.pairAbsorbs (Metadata.layout_exact.pairAbsorbs
    Reader.rest_absorbs))))))))))).map fun _ _ => rfl

/-- Behind the item that lies about stands a rest. -/
theorem AddItemEntity.layout_absorbs :
    layout.read.Absorbs fun other packet => { packet with rest := other } :=
  (varInt64_total.pairAbsorbs (varUInt64_total.pairAbsorbs
    (ItemStack.layout_exact.pairAbsorbs Reader.rest_absorbs))).map fun _ _ => rfl

/-- Behind the id of an entity that moves stands a rest. -/
theorem MoveEntityAbsolute.layout_absorbs :
    layout.read.Absorbs fun other packet => { packet with rest := other } :=
  (varUInt64_total.pairAbsorbs Reader.rest_absorbs).map fun _ _ => rfl

/-- Behind the metadata that are set stands a rest. -/
theorem SetEntityData.layout_absorbs :
    layout.read.Absorbs fun other packet => { packet with rest := other } :=
  (varUInt64_total.pairAbsorbs (Metadata.layout_exact.pairAbsorbs Reader.rest_absorbs)).map
    fun _ _ => rfl

/-- Behind a motion stands a rest. -/
theorem SetEntityMotion.layout_absorbs :
    layout.read.Absorbs fun other packet => { packet with rest := other } :=
  (varUInt64_total.pairAbsorbs (Vector.layout_total.pairAbsorbs Reader.rest_absorbs)).map
    fun _ _ => rfl

/-- Behind the two ends and the flags of a link stands a rest. -/
theorem SetEntityLink.layout_absorbs :
    layout.read.Absorbs fun other packet => { packet with rest := other } :=
  (varInt64_total.pairAbsorbs (varInt64_total.pairAbsorbs (byte_total.pairAbsorbs
    (bool_total.pairAbsorbs (bool_total.pairAbsorbs Reader.rest_absorbs))))).map fun _ _ => rfl

/-- Behind the items of an inventory stands a rest. -/
theorem InventoryContent.layout_absorbs :
    layout.read.Absorbs fun other packet => { packet with rest := other } :=
  (varUInt32_total.pairAbsorbs (ItemStack.layout_exact.list.pairAbsorbs
    Reader.rest_absorbs)).map fun _ _ => rfl

/-- Behind the sound, its place and its data stands a rest. -/
theorem LevelSoundEvent.layout_absorbs :
    layout.read.Absorbs fun other packet => { packet with rest := other } :=
  (varUInt32_total.pairAbsorbs (Vector.layout_total.pairAbsorbs (varInt32_total.pairAbsorbs
    Reader.rest_absorbs))).map fun _ _ => rfl

/-- Behind the kind of a generic event its data are all rest. -/
theorem LevelEventGeneric.layout_absorbs :
    layout.read.Absorbs fun other packet => { packet with data := other } :=
  (varInt32_total.pairAbsorbs Reader.rest_absorbs).map fun _ _ => rfl

namespace Packet

/-- The field with which a packet goes on up to the end of its body, if it has one. A change of the
list of players has one if it adds, and a packet that is not looked into is nothing else. -/
def rest? : Packet → Option Bytes
  | .resourcePacksInfo packet => some packet.body
  | .resourcePackStack packet => some packet.body
  | .startGame packet => some packet.rest
  | .addPlayer packet => some packet.rest
  | .addEntity packet => some packet.rest
  | .addItemEntity packet => some packet.rest
  | .moveEntityAbsolute packet => some packet.rest
  | .movePlayer packet => some packet.rest
  | .playerAction packet => some packet.rest
  | .setEntityData packet => some packet.rest
  | .setEntityMotion packet => some packet.rest
  | .setEntityLink packet => some packet.rest
  | .inventoryContent packet => some packet.rest
  | .playerList (.add entries) => some entries
  | .levelSoundEvent packet => some packet.rest
  | .levelEventGeneric packet => some packet.data
  | .unknown _ body => some body
  | _ => none

/-- The packet with another rest and all else as it is. -/
def withRest (other : Bytes) : Packet → Packet
  | .resourcePacksInfo packet => .resourcePacksInfo { packet with body := other }
  | .resourcePackStack packet => .resourcePackStack { packet with body := other }
  | .startGame packet => .startGame { packet with rest := other }
  | .addPlayer packet => .addPlayer { packet with rest := other }
  | .addEntity packet => .addEntity { packet with rest := other }
  | .addItemEntity packet => .addItemEntity { packet with rest := other }
  | .moveEntityAbsolute packet => .moveEntityAbsolute { packet with rest := other }
  | .movePlayer packet => .movePlayer { packet with rest := other }
  | .playerAction packet => .playerAction { packet with rest := other }
  | .setEntityData packet => .setEntityData { packet with rest := other }
  | .setEntityMotion packet => .setEntityMotion { packet with rest := other }
  | .setEntityLink packet => .setEntityLink { packet with rest := other }
  | .inventoryContent packet => .inventoryContent { packet with rest := other }
  | .playerList (.add _) => .playerList (.add other)
  | .levelSoundEvent packet => .levelSoundEvent { packet with rest := other }
  | .levelEventGeneric packet => .levelEventGeneric { packet with data := other }
  | .unknown id _ => .unknown id other
  | packet => packet

/-- What is put into a packet is its rest, if it has one. -/
theorem rest?_withRest (packet : Packet) (other : Bytes) :
    (packet.withRest other).rest? = packet.rest?.map fun _ => other := by
  cases packet with
  | playerList change => cases change <;> rfl
  | _ => rfl

/-! ## Packets that end by themselves, and packets that do not -/

/-- How it is found where a packet ends: the packet has no rest, and a front of the input is read as
the packet whatever follows; or nothing is left of the input, and behind a front of it anything is
read as the rest of the packet. -/
inductive Ending (reader : Reader Packet) (input : Bytes) (packet : Packet) (left : Bytes) : Prop
  | ofItself {front : Bytes} (alone : packet.rest? = none) (whole : input = front ++ left)
      (reads : ∀ more, reader (front ++ more) = .ok packet more)
  | withInput {front rest : Bytes} (goesOn : packet.rest? = some rest) (ended : left = [])
      (whole : input = front ++ rest)
      (reads : ∀ other, reader (front ++ other) = .ok (packet.withRest other) [])

/-- Whatever is read ends in one of the two ways. -/
def Ends (reader : Reader Packet) : Prop :=
  ∀ input packet left, reader input = .ok packet left → Ending reader input packet left

section Kinds

variable {α : Type} {reader : Reader α} {make : α → Packet} {put : Bytes → α → α}

/-- A reader that always fails reads nothing that would have to end. -/
theorem ends_throw {fault : DecodeError} : Ends (throw fault) := by
  intro input packet left read
  cases read

/-- A packet without a rest ends by itself if what is read for it does. -/
theorem ends_of_delimits (delimits : reader.Delimits) (alone : ∀ value, (make value).rest? = none) :
    Ends (make <$> reader) := by
  intro input packet left read
  obtain ⟨value, -, rfl⟩ := Reader.map_eq_ok_iff.mp read
  obtain ⟨front, whole, reads⟩ := delimits.map input _ left read
  exact .ofItself (alone value) whole reads

/-- A packet with a rest ends with the input if what is left is put into that rest. -/
theorem ends_of_absorbs (absorbs : reader.Absorbs put)
    (goesOn : ∀ value, (make value).rest?.isSome = true)
    (same : ∀ other value, (make value).withRest other = make (put other value)) :
    Ends (make <$> reader) := by
  intro input packet left read
  obtain ⟨value, -, rfl⟩ := Reader.map_eq_ok_iff.mp read
  obtain ⟨rest, isRest⟩ := Option.isSome_iff_exists.mp (goesOn value)
  obtain ⟨ended, front, behind, rfl, reads⟩ := absorbs.map same input _ left read
  -- what stands behind the front is put into the packet, so that it is the rest of the packet
  have again : (make value).withRest behind = make value := by
    rw [reads behind] at read
    exact (EStateM.Result.ok.inj read).1
  have kept := rest?_withRest (make value) behind
  rw [again, isRest] at kept
  exact .withInput isRest ended (by rw [Option.some.inj kept]) reads

/-- A packet ends as it does also behind something else that ends by itself. -/
theorem Ends.behind {next : α → Reader Packet} (first : reader.Delimits)
    (ends : ∀ value, Ends (next value)) : Ends (reader >>= next) := by
  intro input packet left read
  obtain ⟨value, unread, ran, went⟩ := Reader.bind_eq_ok_iff.mp read
  obtain ⟨taken, rfl, takes⟩ := first input value unread ran
  have reads {front other unread : Bytes} {result : Packet}
      (behind : next value (front ++ other) = .ok result unread) :
      (reader >>= next) (taken ++ front ++ other) = .ok result unread := by
    rw [List.append_assoc]
    exact Reader.bind_eq_ok_iff.mpr ⟨value, front ++ other, takes _, behind⟩
  cases ends value unread packet left went with
  | ofItself alone whole again =>
    subst whole
    exact .ofItself alone (List.append_assoc _ _ _).symm fun more => reads (again more)
  | withInput goesOn ended whole again =>
    subst whole
    exact .withInput goesOn ended (List.append_assoc _ _ _).symm fun other => reads (again other)

end Kinds

/-- The change that adds goes on, and the one that removes does not. -/
theorem playerList_ends : Ends (playerList <$> PlayerList.layout.read) := by
  have change (discriminant : UInt8) : Ends (playerList <$> PlayerList.readOf discriminant) := by
    unfold PlayerList.readOf
    split
    · rw [Functor.map_map]
      exact ends_of_absorbs Reader.rest_absorbs (fun _ => rfl) fun _ _ => rfl
    · split
      · rw [Functor.map_map]
        exact ends_of_delimits (Total.list Uuid.layout_total).delimits fun _ => rfl
      · exact ends_throw
  have whole : playerList <$> PlayerList.layout.read =
      Reader.byte >>= fun discriminant => playerList <$> PlayerList.readOf discriminant :=
    map_bind _ _ _
  rw [whole]
  exact Ends.behind byte_total.delimits change

/-- Every kind of packet ends by itself or goes on with a rest. -/
theorem reader_ends (version : Version) (id : PacketId) : Ends (reader version id) := by
  unfold reader
  split
  · exact ends_of_delimits Login.layout_exact.delimits fun _ => rfl
  · exact ends_of_delimits PlayStatus.layout_total.delimits fun _ => rfl
  · exact ends_of_delimits (Disconnect.layout_exact version).delimits fun _ => rfl
  · exact ends_of_absorbs ResourcePacksInfo.layout_absorbs (fun _ => rfl) fun _ _ => rfl
  · exact ends_of_absorbs ResourcePackStack.layout_absorbs (fun _ => rfl) fun _ _ => rfl
  · exact ends_of_delimits ResourcePackClientResponse.layout_exact.delimits fun _ => rfl
  · exact ends_of_absorbs StartGame.layout_absorbs (fun _ => rfl) fun _ _ => rfl
  · exact ends_of_absorbs AddPlayer.layout_absorbs (fun _ => rfl) fun _ _ => rfl
  · exact ends_of_absorbs AddEntity.layout_absorbs (fun _ => rfl) fun _ _ => rfl
  · exact ends_of_delimits RemoveEntity.layout_total.delimits fun _ => rfl
  · exact ends_of_absorbs AddItemEntity.layout_absorbs (fun _ => rfl) fun _ _ => rfl
  · exact ends_of_absorbs MoveEntityAbsolute.layout_absorbs (fun _ => rfl) fun _ _ => rfl
  · exact ends_of_absorbs MovePlayer.layout_absorbs (fun _ => rfl) fun _ _ => rfl
  · exact ends_of_delimits UpdateBlock.layout_total.delimits fun _ => rfl
  · exact ends_of_delimits LevelEvent.layout_total.delimits fun _ => rfl
  · exact ends_of_delimits EntityEvent.layout_total.delimits fun _ => rfl
  · exact ends_of_delimits MobEquipment.layout_exact.delimits fun _ => rfl
  · exact ends_of_absorbs PlayerAction.layout_absorbs (fun _ => rfl) fun _ _ => rfl
  · exact ends_of_absorbs SetEntityData.layout_absorbs (fun _ => rfl) fun _ _ => rfl
  · exact ends_of_absorbs SetEntityMotion.layout_absorbs (fun _ => rfl) fun _ _ => rfl
  · exact ends_of_absorbs SetEntityLink.layout_absorbs (fun _ => rfl) fun _ _ => rfl
  · exact ends_of_absorbs InventoryContent.layout_absorbs (fun _ => rfl) fun _ _ => rfl
  · exact ends_of_delimits (InventorySlot.layout_exact version).delimits fun _ => rfl
  · exact ends_of_delimits (LevelChunk.layout_exact version).delimits fun _ => rfl
  · exact ends_of_delimits (ChangeDimension.layout_exact version).delimits fun _ => rfl
  · exact playerList_ends
  · exact ends_of_delimits RequestChunkRadius.layout_total.delimits fun _ => rfl
  · exact ends_of_delimits ChunkRadiusUpdated.layout_total.delimits fun _ => rfl
  · exact ends_of_delimits (StopSound.layout_exact version).delimits fun _ => rfl
  · exact ends_of_delimits SetLocalPlayerAsInitialized.layout_total.delimits fun _ => rfl
  · exact ends_of_delimits NetworkChunkPublisherUpdate.layout_exact.delimits fun _ => rfl
  · exact ends_of_absorbs LevelSoundEvent.layout_absorbs (fun _ => rfl) fun _ _ => rfl
  · exact ends_of_absorbs LevelEventGeneric.layout_absorbs (fun _ => rfl) fun _ _ => rfl
  · exact ends_of_delimits NetworkSettings.layout_total.delimits fun _ => rfl
  · exact ends_of_delimits SubChunk.layout_exact.delimits fun _ => rfl
  · exact ends_of_delimits RequestNetworkSettings.layout_total.delimits fun _ => rfl
  · exact ends_of_absorbs Reader.rest_absorbs (fun _ => rfl) fun _ _ => rfl

section Bodies

variable {version : Version} {id : PacketId} {body more : Bytes} {packet : Packet}

/-- Behind a packet without a rest, more input is left over. -/
theorem reader_append_of_alone (read : reader version id body = .ok packet [])
    (alone : packet.rest? = none) : reader version id (body ++ more) = .ok packet more := by
  cases reader_ends version id body packet [] read with
  | ofItself _ whole reads =>
    rw [whole, List.append_nil]
    exact reads more
  | withInput goesOn => simp [alone] at goesOn

/-- Behind a packet with a rest, more input is more of the rest. -/
theorem reader_append_of_rest {rest : Bytes} (read : reader version id body = .ok packet [])
    (goesOn : packet.rest? = some rest) :
    reader version id (body ++ more) = .ok (packet.withRest (rest ++ more)) [] := by
  cases reader_ends version id body packet [] read with
  | ofItself alone => simp [goesOn] at alone
  | withInput isRest _ whole reads =>
    rw [goesOn] at isRest
    rw [whole, ← Option.some.inj isRest, List.append_assoc]
    exact reads _

/-- Where the beginning of a body is a packet, what is left of the body is a rest. -/
theorem eq_nil_of_reader_append {cut : Packet} (ran : reader version id body = .ok cut [])
    (read : reader version id (body ++ more) = .ok packet [])
    (bare : ∀ rest ∈ packet.rest?, rest = []) : more = [] := by
  cases goesOn : cut.rest? with
  | none =>
    rw [reader_append_of_alone ran goesOn] at read
    exact (EStateM.Result.ok.inj read).2
  | some rest =>
    rw [reader_append_of_rest ran goesOn] at read
    obtain ⟨rfl, -⟩ := EStateM.Result.ok.inj read
    have empty := bare (rest ++ more) (by rw [rest?_withRest, goesOn]; rfl)
    exact (List.append_eq_nil_iff.mp empty).2

/-- No packet without a rest, or with nothing in it, begins with another packet. -/
theorem decode_cut (read : reader version id body = .ok packet [])
    (bare : ∀ rest ∈ packet.rest?, rest = []) {shorter : Bytes} (front : shorter <+: body)
    (less : shorter ≠ body) : ∃ fault, decode version id shorter = .error fault := by
  obtain ⟨more, rfl⟩ := front
  cases ran : decode version id shorter with
  | error fault => exact ⟨fault, rfl⟩
  | ok cut =>
    have empty := eq_nil_of_reader_append (decode_eq_ok_iff.mp ran) read bare
    exact absurd (by rw [empty, List.append_nil]) less

end Bodies

/-- A body that is cut off in its front is no packet, and one that goes on behind its end has too
many bytes, unless they are part of a rest. -/
theorem decode_ends (version : Version) {id : PacketId} {body : Bytes} {packet : Packet}
    (decoded : decode version id body = .ok packet) :
    (packet.rest? = none →
      (∀ shorter, shorter <+: body → shorter ≠ body →
        ∃ fault, decode version id shorter = .error fault) ∧
      ∀ more, more ≠ [] →
        decode version id (body ++ more) = .error (.trailingBytes more.length)) ∧
    ∀ rest, packet.rest? = some rest →
      (∀ more, decode version id (body ++ more) = .ok (packet.withRest (rest ++ more))) ∧
      ∃ front, body = front ++ rest ∧
        (∀ other, decode version id (front ++ other) = .ok (packet.withRest other)) ∧
        ∀ shorter, shorter <+: front → shorter ≠ front →
          ∃ fault, decode version id shorter = .error fault := by
  have read := decode_eq_ok_iff.mp decoded
  constructor
  · intro alone
    refine ⟨fun shorter => decode_cut read (by simp [alone]), fun more added => ?_⟩
    exact Reader.valueOf_whole_left (reader_append_of_alone read alone) added
  · intro rest goesOn
    refine ⟨fun more => decode_eq_ok_iff.mpr (reader_append_of_rest read goesOn), ?_⟩
    cases reader_ends version id body packet [] read with
    | ofItself alone => simp [goesOn] at alone
    | @withInput front isRest same _ whole reads =>
      obtain rfl : rest = isRest := Option.some.inj (goesOn.symm.trans same)
      refine ⟨front, whole, fun other => decode_eq_ok_iff.mpr (reads other), fun shorter => ?_⟩
      have bare := reads []
      rw [List.append_nil] at bare
      exact decode_cut bare (by simp [rest?_withRest, goesOn])

/-- The removal of an entity, which ends by itself; and the movement of one, the rest of which may
be cut off and go on. -/
theorem decode_ends_removal :
    let removed : Packet := .removeEntity ⟨-150⟩
    let moved : Packet := .moveEntityAbsolute ⟨300, [7, 8]⟩
    decode .v712 PacketId.removeEntity [0xab, 2] = .ok removed ∧ removed.rest? = none ∧
      (∃ fault, decode .v712 PacketId.removeEntity [0xab] = .error fault) ∧
      decode .v712 PacketId.removeEntity [0xab, 2, 0] = .error (.trailingBytes 1) ∧
    decode .v582 PacketId.moveEntityAbsolute [0xac, 2, 7, 8] = .ok moved ∧
      moved.rest? = some [7, 8] ∧
      decode .v582 PacketId.moveEntityAbsolute [0xac, 2, 7, 8, 9] =
        .ok (.moveEntityAbsolute ⟨300, [7, 8, 9]⟩) := by
  intro removed moved
  have first : decode .v712 PacketId.removeEntity [0xab, 2] = .ok removed := by rfl
  have second : decode .v582 PacketId.moveEntityAbsolute [0xac, 2, 7, 8] = .ok moved := by rfl
  obtain ⟨shorter, longer⟩ := (decode_ends .v712 first).1 rfl
  obtain ⟨goesOn, -⟩ := (decode_ends .v582 second).2 [7, 8] rfl
  exact ⟨first, rfl, shorter [0xab] (by decide) (by decide), longer [0] (by decide), second, rfl,
    goesOn [9]⟩

end Packet

end Ferry
