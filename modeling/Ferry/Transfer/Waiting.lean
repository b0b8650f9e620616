import Ferry.Batch

/-!
# Packets that wait for the client

While the client is changing dimension, the packets of the new backend wait. Events that
are only seen are dropped meanwhile, and a backend that sends too much is given up.
-/

namespace Ferry

/-- How much may wait. -/
structure WaitingLimits where
  /-- From here on the operator is told that a transfer takes long. -/
  soft : Nat
  /-- More than that is too much. -/
  hard : Nat
  /-- How many packets go into a batch when they are released. -/
  releaseBatch : Nat
  deriving DecidableEq, Repr

/-- The limits that hold when nobody has configured others. -/
def WaitingLimits.default : WaitingLimits := ⟨500, 4096, 256⟩

/-- Too many packets wait. -/
structure WaitingOverflow where
  limit : Nat
  deriving DecidableEq, Repr

/-- What the failed transfer is reported with. -/
def WaitingOverflow.message (overflow : WaitingOverflow) : String :=
  s!"more than {overflow.limit} packets queued during transfer"

/-- The packets of a new backend that wait for the client. -/
structure Waiting where
  limits : WaitingLimits
  /-- Oldest first. -/
  packets : List BatchPacket
  /-- How many were dropped instead of waiting. -/
  dropped : Nat
  deriving DecidableEq, Repr

namespace Waiting

/-- Nothing waits. -/
def empty (limits : WaitingLimits) : Waiting := ⟨limits, [], 0⟩

/-- Whether a packet is dropped instead of waiting. -/
def isDropped (packet : BatchPacket) : Bool := packet.header.id = PacketId.levelEventGeneric

/-- Lets the packets of a batch wait. -/
def push (waiting : Waiting) (batch : Batch) : Except WaitingOverflow Unit × Waiting :=
  let kept := waiting.packets ++ batch.packets.filter fun packet => !isDropped packet
  let dropped := waiting.dropped + batch.packets.countP isDropped
  if waiting.limits.hard < kept.length then
    (.error ⟨waiting.limits.hard⟩, { waiting with packets := [], dropped := dropped })
  else (.ok (), { waiting with packets := kept, dropped := dropped })

/-- Cuts a list into pieces of `size + 1` elements; the last may be shorter. -/
def pieces {α : Type} (size : Nat) : List α → List (List α)
  | [] => []
  | first :: rest => (first :: rest.take size) :: pieces size (rest.drop size)
termination_by values => values.length
decreasing_by simp only [List.length_drop, List.length_cons]; omega

/-- Lets everything go, in batches of at most the configured size, or of one packet where
that is 0. -/
def release (waiting : Waiting) : List Batch × Waiting :=
  ((pieces (waiting.limits.releaseBatch - 1) waiting.packets).map Batch.ofPackets,
    { waiting with packets := [] })

end Waiting

end Ferry
