import Ferry.Inspect.Frame
import Ferry.Queue

/-!
# Queues as documents
-/

namespace Ferry

instance : View QueueLimits where
  toDocument limits := record [("max_packets", .ofDecimal limits.maxPackets),
    ("max_batches", .ofDecimal limits.maxBatches)]
  ofDocument? document := do
    let standard := QueueLimits.default
    some ⟨← document.getOr "max_packets" standard.maxPackets,
      ← document.getOr "max_batches" standard.maxBatches⟩

instance : View QueueOverflow where
  toDocument overflow := failure "QueueOverflow" overflow.message
  ofDocument? _ := none

/-- A batch as it would be written, without the bytes it may have come in. -/
def Batch.summary (version : Version) (batch : Batch) : Json :=
  record [("packets", view (batch.outgoing version)), ("modified", view batch.modified),
    ("skip_queue", view batch.skipQueue)]

end Ferry
