import Ferry.Mapping
import Ferry.Proofs.Palette.Numbering

/-!
# Items that place blocks

An item stack names its kind and the block that it places, both by the numbers of one side. Where
both sides have the same names for everything, its kind goes over by name and comes back. The block
does so as well, but 0 stands for no block in a stack, whatever block has that number in a palette:
a stack of the block that is 0 on the backend keeps the 0, and a stack of the block that is 0 on
the client comes back without a block.
-/

namespace Ferry

/-- Whether a palette has a number for a name. -/
def Palette.Lists {ι : Type} (palette : Palette ι) (name : String) : Prop :=
  ∃ id, ⟨name, id⟩ ∈ palette.entries

/-- Numberings of a client and a backend that number the same names. -/
structure Renumbering.SameNames {ι : Type} (client backend : SharedPalette ι) : Prop extends
    Numberings client backend where
  names : ∀ name, client.palette.Lists name ↔ backend.palette.Lists name

/-- Only zero is zero as a signed number. -/
theorem UInt32.toInt32_eq_zero_iff {number : UInt32} : number.toInt32 = 0 ↔ number = 0 := by
  constructor
  · intro zero
    rw [← number.toUInt32_toInt32, zero]
    rfl
  · rintro rfl
    rfl

namespace Mapping

open Renumbering

variable {mapping : Mapping}

section Stacks

variable {stack : ItemStack} {clientItem : ItemId} {clientBlock : BlockId}
  (kind : mapping.items.toClient stack.id = clientItem)
  (placed : mapping.blocks.toClient stack.blockId.toUInt32 = clientBlock)

include kind placed

/-- How the client is shown a stack of the backend. -/
theorem item_clientbound (filled : stack.id ≠ 0) :
    mapping.item .clientbound stack =
      { stack with
        id := clientItem
        blockId := if stack.blockId = 0 then 0 else clientBlock.toInt32 } := by
  simp [Mapping.item, ItemStack.isAir, itemId, signedBlock, block, filled, kind, placed]

/-- How the backend gets a stack back that the client was shown. -/
theorem item_back (kindBack : mapping.items.toBackend clientItem = stack.id)
    (placedBack : mapping.blocks.toBackend clientBlock = stack.blockId.toUInt32)
    (filled : stack.id ≠ 0) (known : clientItem ≠ 0) :
    mapping.item .serverbound (mapping.item .clientbound stack) =
      { stack with blockId := if clientBlock = 0 then 0 else stack.blockId } := by
  rw [item_clientbound kind placed filled]
  by_cases unplaced : stack.blockId = 0
  · simp [Mapping.item, ItemStack.isAir, itemId, known, kindBack, unplaced]
  · simp [Mapping.item, ItemStack.isAir, itemId, signedBlock, block, known, kindBack, unplaced,
      placedBack, UInt32.toInt32_eq_zero_iff]

end Stacks

/-- Where both sides have the same names, and no item is 0, a stack of the backend is shown to the
client as the item of the same name. A block of 0 stays 0, and any other is shown as the block of
the same name; so the client is shown that block unless it is 0 on the backend and another number
on the client. The backend gets the same stack back unless the block is 0 on the client and another
number on the backend: then it gets the stack with 0 for its block. -/
theorem item_there_and_back (mapping : Mapping)
    {clientBlocks backendBlocks : SharedPalette BlockId}
    {clientItems backendItems : SharedPalette ItemId}
    (blocks : mapping.blocks = .ofPalettes clientBlocks backendBlocks)
    (items : mapping.items = .ofPalettes clientItems backendItems)
    (blockNames : SameNames clientBlocks backendBlocks)
    (itemNames : SameNames clientItems backendItems)
    (noAir : ∀ name, ⟨name, 0⟩ ∉ clientItems.palette.entries ∧
      ⟨name, 0⟩ ∉ backendItems.palette.entries)
    (stack : ItemStack) (item block : String)
    (theirItem : ⟨item, stack.id⟩ ∈ backendItems.palette.entries)
    (theirBlock : ⟨block, stack.blockId.toUInt32⟩ ∈ backendBlocks.palette.entries) :
    ∃ (clientItem : ItemId) (clientBlock : BlockId),
      ⟨item, clientItem⟩ ∈ clientItems.palette.entries ∧
      ⟨block, clientBlock⟩ ∈ clientBlocks.palette.entries ∧
      let shown := mapping.item .clientbound stack
      let back := mapping.item .serverbound shown
      shown = { stack with
        id := clientItem
        blockId := if stack.blockId = 0 then 0 else clientBlock.toInt32 } ∧
      (shown.blockId = clientBlock.toInt32 ↔ (stack.blockId = 0 → clientBlock = 0)) ∧
      back = { stack with blockId := if clientBlock = 0 then 0 else stack.blockId } ∧
      (back = stack ↔ (clientBlock = 0 → stack.blockId = 0)) := by
  obtain ⟨clientItem, ourItem⟩ := (itemNames.names item).mpr ⟨_, theirItem⟩
  obtain ⟨clientBlock, ourBlock⟩ := (blockNames.names block).mpr ⟨_, theirBlock⟩
  refine ⟨clientItem, clientBlock, ourItem, ourBlock, ?_⟩
  have filled : stack.id ≠ 0 := fun zero => (noAir item).2 (zero ▸ theirItem)
  have known : clientItem ≠ 0 := fun zero => (noAir item).1 (zero ▸ ourItem)
  have kind := itemNames.toClient_eq theirItem ourItem
  have kindBack := itemNames.toBackend_eq theirItem ourItem
  have placed := blockNames.toClient_eq theirBlock ourBlock
  have placedBack := blockNames.toBackend_eq theirBlock ourBlock
  rw [← items] at kind kindBack
  rw [← blocks] at placed placedBack
  dsimp only
  rw [item_back kind placed kindBack placedBack filled known, item_clientbound kind placed filled]
  refine ⟨rfl, ?_, rfl, ?_⟩
  · by_cases unplaced : stack.blockId = 0
    · simpa [unplaced] using eq_comm.trans UInt32.toInt32_eq_zero_iff
    · simp [unplaced]
  · obtain ⟨id, count, damage, netId, blockId, extra⟩ := stack
    by_cases unplaced : clientBlock = 0
    · simp [unplaced, eq_comm]
    · simp [unplaced]

end Mapping

namespace Sample

/-- The blocks of a client for which dirt is 0. -/
def learnedBlocks : SharedPalette BlockId := ⟨0, ⟨[⟨"dirt", 0⟩, ⟨"stone", 3⟩, ⟨"sand", 4⟩]⟩⟩

/-- The same blocks on a backend for which stone is 0. -/
def placedBlocks : SharedPalette BlockId := ⟨1, ⟨[⟨"stone", 0⟩, ⟨"dirt", 7⟩, ⟨"sand", 9⟩]⟩⟩

def learnedItems : SharedPalette ItemId := ⟨0, ⟨[⟨"sign", 257⟩]⟩⟩

def heldItems : SharedPalette ItemId := ⟨1, ⟨[⟨"sign", 300⟩]⟩⟩

/-- The client has learned its numbers from another backend. -/
def renumbered : Mapping :=
  ((Mapping.start none).adopt ⟨1, 1⟩ learnedBlocks learnedItems).adopt ⟨1, 1⟩ placedBlocks heldItems

/-- A sign of the backend that places a block. -/
def sign (block : Int32) : ItemStack := ⟨300, 1, 0, none, block, []⟩

/-- The client's blocks and the backend's have the same names. -/
theorem learnedBlocks_placedBlocks : Renumbering.SameNames learnedBlocks placedBlocks where
  clients := ⟨by decide, by decide⟩
  backends := ⟨by decide, by decide⟩
  instances := nofun
  names name := by
    simp only [Palette.Lists, learnedBlocks, placedBlocks, List.mem_cons, List.not_mem_nil,
      or_false, PaletteEntry.mk.injEq, exists_or, exists_and_left, exists_eq, and_true]
    tauto

/-- The client's items and the backend's have the same names. -/
theorem learnedItems_heldItems : Renumbering.SameNames learnedItems heldItems where
  clients := ⟨by decide, by decide⟩
  backends := ⟨by decide, by decide⟩
  instances := nofun
  names name := by simp [Palette.Lists, learnedItems, heldItems]

/-- Neither palette of items gives any item the id 0. -/
theorem noAir (name : String) :
    ⟨name, 0⟩ ∉ learnedItems.palette.entries ∧ ⟨name, 0⟩ ∉ heldItems.palette.entries := by
  simp [learnedItems, heldItems]

end Sample

namespace Mapping

open Sample

/-- Sand is 0 on neither side. -/
theorem item_there_and_back_sand :
    ⟨"sign", (sign 9).id⟩ ∈ heldItems.palette.entries ∧
      ⟨"sand", (sign 9).blockId.toUInt32⟩ ∈ placedBlocks.palette.entries ∧
      (renumbered.item .clientbound (sign 9)).blockId = 4 ∧
      renumbered.item .serverbound (renumbered.item .clientbound (sign 9)) = sign 9 := by
  have theirItem : ⟨"sign", (sign 9).id⟩ ∈ heldItems.palette.entries := by decide
  have theirBlock : ⟨"sand", (sign 9).blockId.toUInt32⟩ ∈ placedBlocks.palette.entries := by decide
  obtain ⟨clientItem, clientBlock, -, ours, -, shown, -, back⟩ :=
    item_there_and_back renumbered rfl rfl learnedBlocks_placedBlocks learnedItems_heldItems noAir
      (sign 9) "sign" "sand" theirItem theirBlock
  obtain rfl : clientBlock = 4 := by simpa [learnedBlocks] using ours
  exact ⟨theirItem, theirBlock, shown.mpr (by decide), back.mpr (by decide)⟩

/-- Stone is 0 on the backend and 3 on the client, and a sign that places it is shown to the client
as one that places no block. Dirt is 7 on the backend and 0 on the client, and a sign that places it
comes back as one that places no block. -/
theorem item_loses_block :
    (Renumbering.SameNames learnedBlocks placedBlocks ∧
      Renumbering.SameNames learnedItems heldItems ∧
      ∀ name, ⟨name, 0⟩ ∉ learnedItems.palette.entries ∧ ⟨name, 0⟩ ∉ heldItems.palette.entries) ∧
    (⟨"stone", (sign 0).blockId.toUInt32⟩ ∈ placedBlocks.palette.entries ∧
      ⟨"stone", 3⟩ ∈ learnedBlocks.palette.entries ∧
      ¬((renumbered.item .clientbound (sign 0)).blockId = 3)) ∧
    ⟨"dirt", (sign 7).blockId.toUInt32⟩ ∈ placedBlocks.palette.entries ∧
      ¬(renumbered.item .serverbound (renumbered.item .clientbound (sign 7)) = sign 7) := by
  refine ⟨⟨learnedBlocks_placedBlocks, learnedItems_heldItems, noAir⟩, ?_⟩
  decide

end Mapping

end Ferry
