import Ferry.Proofs.Queue.Overflow

/-!
# What an overflow reports

An overflow is reported once in the life of a queue: how many packets and batches were dropped,
and how many bytes their bodies came to. A packet too many is reported for what it is. A batch too
many is not: the packets that wait in the queue are dropped before they are counted, and the bodies
in the batches are never looked at, so that the report names the batches alone.
-/

namespace Ferry

/-- How many bytes the bodies of packets come to, of single ones and of those in batches. -/
def bodySize (packets : List BatchPacket) (batches : List Batch) : Nat :=
  ((packets ++ batches.flatMap fun batch => batch.packets).flatMap
    fun packet => packet.body).length

namespace OutboundQueue

/-- What is counted at an operation. -/
def counts (queue : OutboundQueue) : QueueOperation → List Observation
  | .push packet => (queue.push packet).2.2
  | .write batch => (queue.write batch).2.2
  | _ => []

/-- What is counted during a row of operations. -/
def counted (queue : OutboundQueue) : List QueueOperation → List Observation
  | [] => []
  | operation :: operations =>
    queue.counts operation ++ (queue.perform operation).2.counted operations

/-- What an operation that is refused drops: the packets and the batches that were in the queue, or
are on their way into what it holds, and are not in it afterwards. A packet too many does not count
among them, as it never was in the queue. -/
structure Discards (queue : OutboundQueue) (operation : QueueOperation)
    (packets : List BatchPacket) (batches : List Batch) : Prop where
  packets : packets ++ (queue.perform operation).2.packets = queue.packets
  batches : batches ++ (queue.perform operation).2.held = queue.held ++ operation.written

/-- What is counted in the life of a queue is its overflow and nothing else, and it is what is
dropped that is counted, and that the refusal names. -/
def Faithful (queue : OutboundQueue) (operation : QueueOperation)
    (counted : List Observation) : Prop :=
  ∃ packets batches, queue.Discards operation packets batches ∧
    (queue.perform operation).1 = .error ⟨packets.length, batches.length⟩ ∧
    counted = [.queueOverflow packets.length batches.length,
      .dropped (bodySize packets batches)]

variable {queue : OutboundQueue} {operation : QueueOperation}
  {operations first second : List QueueOperation} {packets : List BatchPacket}
  {batches : List Batch}

@[simp] theorem counted_nil : queue.counted [] = [] := rfl

@[simp] theorem counted_cons : queue.counted (operation :: operations) =
    queue.counts operation ++ (queue.perform operation).2.counted operations := rfl

/-- What is counted at later operations is counted later. -/
theorem counted_append : queue.counted (first ++ second) =
    queue.counted first ++ (queue.after first).counted second := by
  induction first generalizing queue with
  | nil => simp
  | cons operation first ih => simp [ih]

/-! ## One report -/

/-- A dead queue counts nothing. -/
theorem counts_dead (dead : queue.dead = true) : queue.counts operation = [] := by
  cases operation with
  | push packet => simp [counts, push, dead]
  | write batch => simp [counts, write, dead]
  | _ => rfl

/-- Nothing is counted where nothing is refused. -/
theorem counts_fine (fine : (queue.perform operation).1.isOk = true) :
    queue.counts operation = [] := by
  cases dead : queue.dead with
  | true => exact counts_dead dead
  | false =>
    have does := (perform_fine fine).1
    generalize (queue.perform operation).2 = next at does
    cases does with
    | queued room => simp [counts, push, dead, room]
    | hurried overtakes => simp [counts, write, dead, overtakes]
    | wrote turn active => simp [counts, write, dead, turn, active]
    | held turn idle room => simp [counts, write, dead, turn, idle, Nat.succ_le_of_lt room]
    | _ => rfl

/-- Nothing is counted once a queue is dead. -/
theorem Dead.counted (dead : queue.Dead) : queue.counted operations = [] := by
  induction operations generalizing queue with
  | nil => rfl
  | cons operation operations ih =>
    rw [counted_cons, counts_dead dead.dead, ih (dead.perform operation).1, List.append_nil]

/-- Nothing has been counted while a queue is alive. -/
theorem counted_alive (spent : queue.dead = true → queue.packets = [])
    (alive : (queue.after operations).dead = false) : queue.counted operations = [] := by
  induction operations generalizing queue with
  | nil => rfl
  | cons operation operations ih =>
    have next : (queue.after [operation]).dead = true → (queue.after [operation]).packets = [] :=
      after_spent spent
    have later : (queue.perform operation).2.counted operations = [] := ih next alive
    rw [counted_cons, later, List.append_nil]
    cases fine : (queue.perform operation).1.isOk with
    | true => exact counts_fine fine
    | false =>
      have dead : ((queue.perform operation).2.after operations).Dead :=
        (perform_refused_dead spent fine).run.1
      rw [after_cons, dead.dead] at alive
      cases alive

/-- The overflow of a new queue is all that is counted, whatever is done before and after. -/
theorem counted_overflow {limits : QueueLimits} {before rest : List QueueOperation}
    (alive : ((empty limits).after before).dead = false)
    (refused : (((empty limits).after before).perform operation).1.isOk = false) :
    (empty limits).counted (before ++ operation :: rest) =
      ((empty limits).after before).counts operation := by
  have dead := perform_refused_dead (after_spent fun _ => rfl) refused
  rw [counted_append, counted_alive (fun _ => rfl) alive, counted_cons, dead.counted]
  simp

/-! ## What is dropped -/

/-- There is only one answer to what is dropped. -/
theorem Discards.unique {others : List BatchPacket} {more : List Batch}
    (discards : queue.Discards operation packets batches)
    (again : queue.Discards operation others more) : packets = others ∧ batches = more :=
  ⟨List.append_cancel_right (discards.packets.trans again.packets.symm),
    List.append_cancel_right (discards.batches.trans again.batches.symm)⟩

/-- A packet too many drops the packets, and no batch. -/
theorem discards_push {packet : BatchPacket} (alive : queue.dead = false)
    (full : queue.capacity ≤ queue.packets.length) :
    queue.Discards (.push packet) queue.packets [] := by
  constructor <;> simp [perform, push_full alive full, QueueOperation.written]

/-- A batch too many drops the packets, too. -/
theorem discards_write {batch : Batch} (alive : queue.dead = false)
    (turn : batch.skipQueue = false) (idle : queue.active = false)
    (full : queue.limits.maxBatches ≤ queue.held.length) :
    queue.Discards (.write batch) queue.packets (queue.held ++ [batch]) := by
  constructor <;> simp [perform, write_full alive turn idle full, QueueOperation.written, turn]

/-- What an overflow drops and what it says about it. -/
theorem overflow_reports (alive : queue.dead = false)
    (refused : (queue.perform operation).1.isOk = false) :
    ∃ packets batches report bytes, queue.Discards operation packets batches ∧
      (queue.perform operation).1 = .error report ∧
      queue.counts operation =
        [.queueOverflow report.packets report.batches, .dropped bytes] ∧
      report.batches = batches.length ∧
      ((∃ packet, operation = .push packet) ∧
          report.packets = packets.length ∧ bytes = bodySize packets batches ∨
        (∃ batch, operation = .write batch) ∧ report.packets = 0 ∧ bytes = 0) := by
  rcases full_of_refused alive refused with
    ⟨packet, rfl, full⟩ | ⟨batch, rfl, turn, idle, full⟩
  · refine ⟨_, _, ⟨queue.packets.length, 0⟩, bodySize queue.packets [], discards_push alive full,
      ?_, ?_, rfl, .inl ⟨⟨packet, rfl⟩, rfl, rfl⟩⟩
    · rw [perform, push_full alive full]
      rfl
    · simp [counts, push_full alive full, bodySize]
  · refine ⟨_, _, ⟨0, queue.held.length + 1⟩, 0, discards_write alive turn idle full,
      ?_, ?_, by simp, .inr ⟨⟨batch, rfl⟩, rfl, rfl⟩⟩
    · rw [perform, write_full alive turn idle full]
    · rw [counts, write_full alive turn idle full]

/-- A report is faithful to what is dropped exactly if each of its numbers is. -/
theorem faithful_iff {report : QueueOverflow} {bytes : Nat} {counted : List Observation}
    (discards : queue.Discards operation packets batches)
    (refusal : (queue.perform operation).1 = .error report)
    (reported : counted = [.queueOverflow report.packets report.batches, .dropped bytes]) :
    queue.Faithful operation counted ↔ report.packets = packets.length ∧
      report.batches = batches.length ∧ bytes = bodySize packets batches := by
  constructor
  · rintro ⟨others, more, again, -, same⟩
    obtain ⟨rfl, rfl⟩ := discards.unique again
    rw [reported] at same
    simpa [and_assoc] using same
  · rintro ⟨packetsRight, batchesRight, bytesRight⟩
    refine ⟨packets, batches, discards, ?_, ?_⟩
    · rw [refusal, ← packetsRight, ← batchesRight]
    · rw [reported, packetsRight, batchesRight, bytesRight]

/-- Whatever has been done to a new queue, and whatever is done afterwards, its overflow is reported
once, in the same words as the refusal, and the batches are counted right. The packets and the
bytes are counted right if it is a packet that was too many. If it is a batch, none are counted, so
that the report is faithful exactly if no packet waited in the queue, and there is nothing in the
bodies of the packets in the batches. -/
theorem overflow_faithful_iff (limits : QueueLimits) (before rest : List QueueOperation)
    (operation : QueueOperation) (alive : ((empty limits).after before).dead = false)
    (refused : (((empty limits).after before).perform operation).1.isOk = false) :
    let queue := (empty limits).after before
    let counted := (empty limits).counted (before ++ operation :: rest)
    (∃ packets batches report bytes, queue.Discards operation packets batches ∧
      (queue.perform operation).1 = .error report ∧
      counted = [.queueOverflow report.packets report.batches, .dropped bytes] ∧
      report.batches = batches.length ∧
      ((∃ packet, operation = .push packet) ∧
          report.packets = packets.length ∧ bytes = bodySize packets batches ∨
        (∃ batch, operation = .write batch) ∧ report.packets = 0 ∧ bytes = 0)) ∧
    (queue.Faithful operation counted ↔
      (∃ packet, operation = .push packet) ∨
        queue.packets = [] ∧ bodySize [] (queue.held ++ operation.written) = 0) := by
  intro queue counted
  obtain ⟨packets, batches, report, bytes, discards, refusal, counts, batchesRight, numbers⟩ :=
    overflow_reports alive refused
  have once : counted = [.queueOverflow report.packets report.batches, .dropped bytes] :=
    (counted_overflow alive refused).trans counts
  refine ⟨⟨packets, batches, report, bytes, discards, refusal, once, batchesRight, numbers⟩, ?_⟩
  rw [faithful_iff discards refusal once]
  rcases numbers with ⟨pushed, packetsRight, bytesRight⟩ | ⟨⟨batch, rfl⟩, noPacket, noByte⟩
  · exact ⟨fun _ => .inl pushed, fun _ => ⟨packetsRight, batchesRight, bytesRight⟩⟩
  · obtain ⟨packet, other, -⟩ | ⟨_, -, next⟩ := perform_overflow alive refused
    · cases other
    -- the queue is empty afterwards, so all that was in it is dropped
    have lost : packets = queue.packets := by simpa [next] using discards.packets
    have gone : batches = queue.held ++ QueueOperation.written (.write batch) := by
      simpa [next] using discards.batches
    rw [noPacket, noByte, lost, ← gone]
    constructor
    · rintro ⟨unqueued, -, small⟩
      have unqueued : queue.packets = [] := List.length_eq_zero_iff.mp unqueued.symm
      rw [unqueued] at small
      exact .inr ⟨unqueued, small.symm⟩
    · rintro (⟨packet, other⟩ | ⟨unqueued, small⟩)
      · cases other
      · rw [unqueued, small]
        exact ⟨rfl, batchesRight, rfl⟩

/-- A queue that is not active has room for one batch: another one kills it, and drops a packet and
three bytes that the report does not have. -/
theorem overflow_faithful_iff_held :
    let before : List QueueOperation :=
      [.setActive false, .push waitingPacket, .write laterBatch]
    let queue := (empty ⟨4, 1⟩).after before
    let rest : List QueueOperation := [.push waitingPacket, .write laterBatch, .release]
    (queue.dead = false ∧ (queue.perform (.write laterBatch)).1.isOk = false) ∧
      queue.Discards (.write laterBatch) [waitingPacket] [laterBatch, laterBatch] ∧
      bodySize [waitingPacket] [laterBatch, laterBatch] = 3 ∧
      (queue.perform (.write laterBatch)).1 = .error ⟨0, 2⟩ ∧
      (empty ⟨4, 1⟩).counted (before ++ .write laterBatch :: rest) =
        [.queueOverflow 0 2, .dropped 0] ∧
      ¬queue.Faithful (.write laterBatch)
        ((empty ⟨4, 1⟩).counted (before ++ .write laterBatch :: rest)) := by
  intro before queue rest
  have alive : queue.dead = false := by decide +kernel
  have refused : (queue.perform (.write laterBatch)).1.isOk = false := by decide +kernel
  have discards : queue.Discards (.write laterBatch) [waitingPacket] [laterBatch, laterBatch] :=
    ⟨by decide +kernel, by decide +kernel⟩
  have answer : (queue.perform (.write laterBatch)).1 = .error ⟨0, 2⟩ := by rfl
  obtain ⟨⟨packets, batches, report, bytes, again, refusal, once, batchesRight, numbers⟩, iff⟩ :=
    overflow_faithful_iff ⟨4, 1⟩ before rest (.write laterBatch) alive refused
  obtain rfl : ⟨0, 2⟩ = report := Except.error.inj (answer.symm.trans refusal)
  rcases numbers with ⟨⟨packet, other⟩, -⟩ | ⟨-, -, rfl⟩
  · cases other
  refine ⟨⟨alive, refused⟩, discards, rfl, answer, once, fun faithful => ?_⟩
  rcases iff.mp faithful with ⟨packet, other⟩ | ⟨unqueued, -⟩
  · cases other
  · revert unqueued
    decide +kernel

/-- Not every overflow is reported as what it is. -/
theorem overflow_not_faithful : ¬∀ (limits : QueueLimits) (before rest : List QueueOperation)
    (operation : QueueOperation), ((empty limits).after before).dead = false →
    (((empty limits).after before).perform operation).1.isOk = false →
      ((empty limits).after before).Faithful operation
        ((empty limits).counted (before ++ operation :: rest)) := by
  intro always
  obtain ⟨packets, batches, discards, answer, -⟩ := always ⟨4, 1⟩
    [.setActive false, .push waitingPacket, .write laterBatch] [] (.write laterBatch)
    (by decide +kernel) (by decide +kernel)
  -- one packet was in the queue, and the refusal names none
  have lost : packets = [waitingPacket] ∧ batches = [laterBatch, laterBatch] :=
    discards.unique ⟨by decide +kernel, by decide +kernel⟩
  rw [lost.1] at answer
  cases answer

end OutboundQueue

end Ferry
