import Ferry.Packet.Item
import Ferry.Version

/-!
# Packets about containers
-/

namespace Ferry

/-- Fills a container. -/
structure InventoryContent where
  windowId : UInt32
  items : List ItemStack
  rest : Bytes
  deriving DecidableEq, Repr

/-- The window, the items, and whatever follows them in this version. -/
def InventoryContent.layout : Layout InventoryContent :=
  (Layout.varUInt32.pair ((Layout.list ItemStack.layout).pair Layout.rest)).convert
    (fun (windowId, items, rest) => ⟨windowId, items, rest⟩)
    (fun packet => (packet.windowId, packet.items, packet.rest))

/-- Fills one slot of a container. -/
structure InventorySlot where
  windowId : UInt32
  slot : UInt32
  /-- Nothing before versions that carry it. -/
  containerName : Option ContainerName
  dynamicContainerSize : UInt32
  item : ItemStack
  deriving DecidableEq, Repr

namespace InventorySlot

/-- The address of the container where the version carries one; an address that is
missing is written as container 0. -/
def addressLayout (version : Version) : Layout (Option ContainerName × UInt32) :=
  Layout.onlyIf version.hasFullContainerName
    ((ContainerName.layout.convert some fun name => name.getD ⟨0, none⟩).pair Layout.varUInt32)
    (none, 0)

/-- Where the slot is, and what lies in it. -/
def layout (version : Version) : Layout InventorySlot :=
  (Layout.varUInt32.pair (Layout.varUInt32.pair
    ((addressLayout version).pair ItemStack.layout))).convert
    (fun (windowId, slot, (name, size), item) => ⟨windowId, slot, name, size, item⟩)
    (fun packet => (packet.windowId, packet.slot,
      (packet.containerName, packet.dynamicContainerSize), packet.item))

end InventorySlot

end Ferry
