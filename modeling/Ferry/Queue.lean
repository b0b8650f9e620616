import Ferry.Batch
import Ferry.Observation

/-!
# Outbound queues

Single packets for a connection are collected in a bounded queue and flushed as one
batch at every tick; whole batches are written at once, behind whatever was queued
before them. A queue that is not active holds its batches back. A queue that takes in
more than its limits drops everything and is dead from then on.

No operation does any writing: each returns the batches to be written now, in order.
-/

namespace Ferry

/-- How much a queue takes in. -/
structure QueueLimits where
  /-- Single packets that wait for the next tick. -/
  maxPackets : Nat
  /-- Batches held while the queue is not active. -/
  maxBatches : Nat
  deriving DecidableEq, Repr

/-- The limits of a queue that nobody has configured. -/
def QueueLimits.default : QueueLimits := ⟨4096, 256⟩

/-- A queue took in too much, or did so before. -/
structure QueueOverflow where
  packets : Nat
  batches : Nat
  deriving DecidableEq, Repr

/-- What an operator reads about an overflow. -/
def QueueOverflow.message (overflow : QueueOverflow) : String :=
  s!"outbound queue overflowed with {overflow.packets} packets and " ++
    s!"{overflow.batches} batches queued"

/-- The packets and batches on their way to one connection. -/
structure OutboundQueue where
  limits : QueueLimits
  /-- Single packets, oldest first. -/
  packets : List BatchPacket
  /-- Batches held back, oldest first. -/
  held : List Batch
  active : Bool
  /-- Whether the queue has overflowed. -/
  dead : Bool
  deriving DecidableEq, Repr

namespace OutboundQueue

/-- An active queue with nothing in it. -/
def empty (limits : QueueLimits) : OutboundQueue := ⟨limits, [], [], true, false⟩

/-- How many single packets fit; a queue has room for one at least. -/
def capacity (queue : OutboundQueue) : Nat := max 1 queue.limits.maxPackets

/-- The single packets as one batch, unless there are none. -/
def queuedBatch (queue : OutboundQueue) : List Batch :=
  if queue.packets.isEmpty then [] else [Batch.ofPackets queue.packets]

/-- Drops the single packets for good and reports how many packets and how many bytes of
bodies they were, beside a number of held batches. -/
def overflow (queue : OutboundQueue) (batches : Nat) :
    QueueOverflow × OutboundQueue × List Observation :=
  let count := queue.packets.length
  let bytes := (queue.packets.flatMap fun packet => packet.body).length
  (⟨count, batches⟩, { queue with packets := [], dead := true },
    [.queueOverflow count batches, .dropped bytes])

/-- Queues a packet for the next tick. -/
def push (queue : OutboundQueue) (packet : BatchPacket) :
    Except QueueOverflow Unit × OutboundQueue × List Observation :=
  if queue.dead then (.error ⟨0, 0⟩, queue, [])
  else if queue.packets.length < queue.capacity then
    (.ok (), { queue with packets := queue.packets ++ [packet] }, [])
  else
    let (fault, queue, counted) := queue.overflow 0
    (.error fault, queue, counted)

/-- Writes a whole batch. A batch that overtakes is written at once, even by a queue that
is not active. -/
def write (queue : OutboundQueue) (batch : Batch) :
    Except QueueOverflow (List Batch) × OutboundQueue × List Observation :=
  if queue.dead then (.error ⟨0, queue.held.length⟩, queue, [])
  else if batch.skipQueue then (.ok [batch], queue, [])
  else if queue.active then
    (.ok (queue.queuedBatch ++ [batch]), { queue with packets := [] }, [])
  else
    let held := queue.held ++ [batch]
    if held.length ≤ queue.limits.maxBatches then (.ok [], { queue with held := held }, [])
    else
      let released : OutboundQueue := { queue with packets := [], held := [] }
      let (fault, queue, counted) := released.overflow held.length
      (.error fault, queue, counted)

/-- Flushes the single packets. -/
def tick (queue : OutboundQueue) : Except QueueOverflow (Option Batch) × OutboundQueue :=
  if queue.dead then (.error ⟨0, queue.held.length⟩, queue)
  else if queue.active then (.ok queue.queuedBatch.head?, { queue with packets := [] })
  else (.ok none, queue)

/-- Takes out everything, for a last flush. -/
def drain (queue : OutboundQueue) : List Batch × OutboundQueue :=
  (queue.held ++ queue.queuedBatch, { queue with packets := [], held := [] })

/-- Holds batches back from now on. -/
def deactivate (queue : OutboundQueue) : OutboundQueue := { queue with active := false }

/-- Writes what was held back and lets batches through from now on. -/
def activate (queue : OutboundQueue) : List Batch × OutboundQueue :=
  { queue with active := true }.drain

/-- Drops everything, and counts the packets. -/
def release (queue : OutboundQueue) : Nat × OutboundQueue :=
  ((queue.held.flatMap fun batch => batch.packets).length + queue.packets.length,
    { queue with packets := [], held := [] })

end OutboundQueue

end Ferry
