/-!
# What is counted

The proxy reports what it does with batches and packets, so that an operator can see
how much passes through untouched and how much is dropped.
-/

namespace Ferry

/-- Something worth counting. -/
inductive Observation where
  /-- A queue overflowed with so many packets and batches in it. -/
  | queueOverflow (packets batches : Nat)
  /-- A batch of so many bytes was compressed. -/
  | compressed (uncompressed : Nat)
  /-- A batch was decompressed. -/
  | decompressed (compressed uncompressed : Nat)
  /-- A batch of so many packets was sent as it came. -/
  | passedThrough (packets : Nat)
  /-- A batch of so many packets was written anew. -/
  | reencoded (packets : Nat)
  /-- Packets were taken out of a batch. -/
  | canceled (packets bytes : Nat)
  /-- Packets with so many bytes in their bodies were dropped. -/
  | dropped (bytes : Nat)
  deriving DecidableEq, Repr

end Ferry
