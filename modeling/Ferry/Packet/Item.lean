import Ferry.Wire.Layout

/-!
# Item stacks

The stack of no item, air, is written as its id 0 and nothing else.
-/

namespace Ferry

/-- A stack of items in an inventory or a hand. -/
structure ItemStack where
  id : Int32
  count : UInt16
  damage : UInt32
  /-- The number by which later messages name this stack. -/
  netId : Option Int32
  /-- The block that the item places, or 0. -/
  blockId : Int32
  /-- Tags and the lists of blocks the item may be placed on or destroy, uninterpreted. -/
  extra : Bytes
  deriving DecidableEq, Repr, Inhabited

namespace ItemStack

/-- No item. -/
def air : ItemStack := ⟨0, 0, 0, none, 0, []⟩

/-- Whether the stack is written as no item. -/
def isAir (item : ItemStack) : Bool := item.id = 0

/-- The fields after the id of a stack that is not air. -/
def contentsLayout : Layout (UInt16 × UInt32 × Option Int32 × Int32 × Bytes) :=
  Layout.uint16.pair (Layout.varUInt32.pair ((Layout.optional Layout.varInt32).pair
    (Layout.varInt32.pair Layout.byteArray)))

/-- An item stack on the wire. -/
def layout : Layout ItemStack :=
  (Layout.varInt32.chain fun id =>
    Layout.onlyIf (id ≠ 0) contentsLayout (0, 0, none, 0, [])).convert
    (fun (id, count, damage, netId, blockId, extra) =>
      ⟨id, count, damage, netId, blockId, extra⟩)
    (fun item => (item.id, item.count, item.damage, item.netId, item.blockId, item.extra))

end ItemStack

/-- The full address of a container. -/
structure ContainerName where
  containerId : UInt8
  dynamicId : Option UInt32
  deriving DecidableEq, Repr, Inhabited

/-- A container address on the wire. -/
def ContainerName.layout : Layout ContainerName :=
  (Layout.byte.pair (Layout.optional Layout.uint32)).convert
    (fun (containerId, dynamicId) => ⟨containerId, dynamicId⟩)
    (fun name => (name.containerId, name.dynamicId))

end Ferry
