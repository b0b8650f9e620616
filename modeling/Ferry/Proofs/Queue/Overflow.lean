import Ferry.Proofs.Queue.Order

/-!
# What an overflow leaves behind

A queue that has overflowed is dead. No packet is in it any more, and neither a packet nor a batch
gets in. The batches that it holds back are another matter: a batch too many drops them with the
packets, but a packet too many leaves them where they are, and then a dead queue lets them out as
any other does.
-/

namespace Ferry

namespace OutboundQueue

/-- What a row of operations lets out, in order. -/
def letOut (queue : OutboundQueue) (operations : List QueueOperation) : List Batch :=
  (queue.answers operations).flatMap fun answer => answer.toOption.getD []

/-- What is let out of the batches that a queue holds, once and by the first operation that empties
it, unless that is a release. -/
def parting (held : List Batch) (operations : List QueueOperation) : List Batch :=
  match operations.find? QueueOperation.empties with
  | none | some .release => []
  | some _ => held

/-- A queue that has overflowed, and dropped its packets. -/
structure Dead (queue : OutboundQueue) : Prop where
  dead : queue.dead = true
  packets : queue.packets = []

/-- No packet is in a queue, and nothing gets in. -/
structure Shut (queue : OutboundQueue) : Prop where
  packets : queue.packets = []
  refusesPacket : ∀ packet, (queue.push packet).1.isOk = false
  refusesBatch : ∀ batch, (queue.write batch).1.isOk = false
  refusesTick : queue.tick.1.isOk = false

/-- Everything in a queue is gone for good: whatever is done to it from now on, nothing is in it,
nothing gets in and nothing is let out. -/
structure Released (queue : OutboundQueue) : Prop where
  shut : ∀ operations, (queue.after operations).Shut
  held : ∀ operations, (queue.after operations).held = []
  silent : ∀ operations, queue.letOut operations = []

variable {queue : OutboundQueue} {operation : QueueOperation} {operations : List QueueOperation}

@[simp] theorem letOut_nil : queue.letOut [] = [] := rfl

/-- What the first operation lets out comes first. -/
@[simp] theorem letOut_cons : queue.letOut (operation :: operations) =
    (queue.perform operation).1.toOption.getD [] ++
      (queue.perform operation).2.letOut operations := rfl

/-- Where nothing is held, nothing is let out of it. -/
@[simp] theorem parting_nil : parting [] operations = [] := by
  unfold parting
  split <;> rfl

/-- What is held is let out by the first operation, or left for the others. -/
theorem parting_cons {held : List Batch} : parting held (operation :: operations) =
    parting held [operation] ++
      parting (if operation.empties then [] else held) operations := by
  cases empties : operation.empties with
  | true =>
    simp only [if_true, parting_nil, List.append_nil]
    simp [parting, empties]
  | false => simp [parting, empties]

/-! ## Dead queues -/

namespace Dead

/-- A dead queue refuses every packet, and counts none. -/
theorem refusesPacket (dead : queue.Dead) (packet : BatchPacket) :
    queue.push packet = (.error ⟨0, 0⟩, queue, []) := by
  simp [push, dead.dead]

/-- A dead queue refuses every batch, and counts those that it holds. -/
theorem refusesBatch (dead : queue.Dead) (batch : Batch) :
    queue.write batch = (.error ⟨0, queue.held.length⟩, queue, []) := by
  simp [write, dead.dead]

/-- A dead queue refuses to be written, and counts the batches that it holds. -/
theorem refusesTick (dead : queue.Dead) :
    queue.tick = (.error ⟨0, queue.held.length⟩, queue) := by
  simp [tick, dead.dead]

/-- A dead queue is shut. -/
theorem shut (dead : queue.Dead) : queue.Shut where
  packets := dead.packets
  refusesPacket packet := by rw [dead.refusesPacket]; rfl
  refusesBatch batch := by rw [dead.refusesBatch]; rfl
  refusesTick := by rw [dead.refusesTick]; rfl

/-- A dead queue has no packets to write. -/
theorem queuedBatch (dead : queue.Dead) : queue.queuedBatch = [] := by
  simp [OutboundQueue.queuedBatch, dead.packets]

/-- Nothing but emptying a dead queue has an effect: it lets out what was held, or drops it. -/
theorem perform (dead : queue.Dead) (operation : QueueOperation) :
    (queue.perform operation).2.Dead ∧
      (queue.perform operation).2.held = (if operation.empties then [] else queue.held) ∧
      (queue.perform operation).1.toOption.getD [] = parting queue.held [operation] := by
  cases operation with
  | push packet =>
    simp only [OutboundQueue.perform, dead.refusesPacket]
    exact ⟨dead, rfl, rfl⟩
  | write batch =>
    simp only [OutboundQueue.perform, dead.refusesBatch]
    exact ⟨dead, rfl, rfl⟩
  | tick =>
    simp only [OutboundQueue.perform, dead.refusesTick]
    exact ⟨dead, rfl, rfl⟩
  | setActive active =>
    cases active with
    | true =>
      have out : queue.activate.1 = queue.held ++ queue.queuedBatch := rfl
      rw [dead.queuedBatch, List.append_nil] at out
      exact ⟨⟨dead.dead, rfl⟩, rfl, out⟩
    | false => exact ⟨⟨dead.dead, dead.packets⟩, rfl, rfl⟩
  | drain =>
    have out : queue.drain.1 = queue.held ++ queue.queuedBatch := rfl
    rw [dead.queuedBatch, List.append_nil] at out
    exact ⟨⟨dead.dead, rfl⟩, rfl, out⟩
  | release => exact ⟨⟨dead.dead, rfl⟩, rfl, rfl⟩

/-- What a dead queue holds is let out at once, or dropped, and that is all that happens. -/
theorem run (dead : queue.Dead) :
    (queue.after operations).Dead ∧
      (queue.after operations).held =
        (if operations.any QueueOperation.empties then [] else queue.held) ∧
      queue.letOut operations = parting queue.held operations := by
  induction operations generalizing queue with
  | nil => exact ⟨dead, rfl, rfl⟩
  | cons operation operations ih =>
    obtain ⟨next, held, out⟩ := dead.perform operation
    obtain ⟨last, left, later⟩ := ih next
    refine ⟨last, ?_, ?_⟩
    · rw [after_cons, left, held, List.any_cons]
      cases operation.empties <;> simp
    · rw [letOut_cons, parting_cons, out, later, held]

/-- A dead queue has released everything for good exactly if it holds nothing. -/
theorem released_iff (dead : queue.Dead) : queue.Released ↔ queue.held = [] := by
  constructor
  · intro released
    exact released.held []
  · intro unheld
    refine ⟨fun operations => ?_, fun operations => ?_, fun operations => ?_⟩
    · exact dead.run.1.shut
    · rw [dead.run.2.1, unheld, ite_self]
    · rw [dead.run.2.2, unheld, parting_nil]

end Dead

/-! ## The overflow -/

/-- An operation that does not overflow leaves a queue as dead or alive as it was. -/
theorem Does.dead {next : OutboundQueue} (does : queue.Does operation next) :
    next.dead = queue.dead := by
  cases does <;> rfl

/-- An operation that overflows finds no room: for a packet, or for a batch that is to be held. -/
theorem full_of_refused (alive : queue.dead = false)
    (refused : (queue.perform operation).1.isOk = false) :
    (∃ packet, operation = .push packet ∧ queue.capacity ≤ queue.packets.length) ∨
    ∃ batch, operation = .write batch ∧ batch.skipQueue = false ∧ queue.active = false ∧
      queue.limits.maxBatches ≤ queue.held.length := by
  cases operation with
  | push packet =>
    by_cases room : queue.packets.length < queue.capacity
    · simp [perform, push, alive, room, Except.isOk, Except.toBool, Except.map] at refused
    · exact .inl ⟨packet, rfl, Nat.le_of_not_lt room⟩
  | write batch =>
    by_cases overtakes : batch.skipQueue = true
    · simp [perform, write, alive, overtakes, Except.isOk, Except.toBool] at refused
    by_cases active : queue.active = true
    · simp [perform, write, alive, overtakes, active, Except.isOk, Except.toBool] at refused
    by_cases room : (queue.held ++ [batch]).length ≤ queue.limits.maxBatches
    · simp only [perform, write, alive, overtakes, active, room] at refused
      cases refused
    · rw [List.length_append, List.length_singleton] at room
      refine .inr ⟨batch, rfl, by simpa using overtakes, by simpa using active, ?_⟩
      omega
  | tick =>
    by_cases active : queue.active = true
    · simp [perform, tick, alive, active, Except.isOk, Except.toBool, Except.map] at refused
    · simp [perform, tick, alive, active, Except.isOk, Except.toBool, Except.map] at refused
  | setActive active => cases active <;> cases refused
  | drain => cases refused
  | release => cases refused

/-- A packet too many drops the packets, and they are counted. -/
theorem push_full (alive : queue.dead = false) (full : queue.capacity ≤ queue.packets.length)
    (packet : BatchPacket) : queue.push packet =
      (.error ⟨queue.packets.length, 0⟩, { queue with packets := [], dead := true },
        [.queueOverflow queue.packets.length 0,
          .dropped (queue.packets.flatMap fun packet => packet.body).length]) := by
  simp [push, alive, Nat.not_lt.mpr full, overflow]

/-- A batch too many drops the packets and the batches, but the batches alone are counted: the
packets are no longer there by then. -/
theorem write_full {batch : Batch} (alive : queue.dead = false) (turn : batch.skipQueue = false)
    (idle : queue.active = false) (full : queue.limits.maxBatches ≤ queue.held.length) :
    queue.write batch =
      (.error ⟨0, queue.held.length + 1⟩,
        { queue with packets := [], held := [], dead := true },
        [.queueOverflow 0 (queue.held.length + 1), .dropped 0]) := by
  simp [write, alive, turn, idle, Nat.not_le.mpr (Nat.lt_succ_of_le full), overflow]

/-- A packet too many kills a queue and leaves what it holds, a batch too many drops that, too. -/
theorem perform_overflow (alive : queue.dead = false)
    (refused : (queue.perform operation).1.isOk = false) :
    (∃ packet, operation = .push packet ∧
      (queue.perform operation).2 = { queue with packets := [], dead := true }) ∨
    ∃ batch, operation = .write batch ∧
      (queue.perform operation).2 = { queue with packets := [], held := [], dead := true } := by
  rcases full_of_refused alive refused with
    ⟨packet, rfl, full⟩ | ⟨batch, rfl, turn, idle, full⟩
  · exact .inl ⟨packet, rfl, by rw [perform, push_full alive full]⟩
  · exact .inr ⟨batch, rfl, by rw [perform, write_full alive turn idle full]⟩

/-- To empty a queue is never refused. -/
theorem stays_of_refused (refused : (queue.perform operation).1.isOk = false) :
    operation.empties = false := by
  cases operation with
  | setActive active =>
    cases active with
    | true => cases refused
    | false => rfl
  | drain => cases refused
  | release => cases refused
  | _ => rfl

/-- An operation that overflows leaves a dead queue. -/
theorem perform_refused_dead (unspent : queue.dead = true → queue.packets = [])
    (refused : (queue.perform operation).1.isOk = false) : (queue.perform operation).2.Dead := by
  cases alive : queue.dead with
  | true => exact (Dead.perform ⟨alive, unspent alive⟩ operation).1
  | false =>
    rcases perform_overflow alive refused with ⟨_, _, next⟩ | ⟨_, _, next⟩
    · rw [next]
      exact ⟨rfl, rfl⟩
    · rw [next]
      exact ⟨rfl, rfl⟩

/-- There are no packets in a queue that is dead, whatever has been done to it. -/
theorem after_spent (spent : queue.dead = true → queue.packets = [])
    (dead : (queue.after operations).dead = true) : (queue.after operations).packets = [] := by
  induction operations generalizing queue with
  | nil => exact spent dead
  | cons operation operations ih =>
    refine ih (fun deadNext => ?_) dead
    cases fine : (queue.perform operation).1.isOk with
    | false => exact (perform_refused_dead spent fine).packets
    | true =>
      rw [(perform_fine fine).1.dead] at deadNext
      exact (Dead.perform ⟨deadNext, spent deadNext⟩ operation).1.packets

/-- Whatever has been done to a new queue, once an operation has overflowed no packet is in the
queue, and neither a packet nor a batch gets in. What it still holds is let out, or dropped, by the
first operation that empties it. So everything has been released for good exactly if the queue held
nothing, or if it was with a batch that it overflowed just then. -/
theorem overflow_releases_iff (limits : QueueLimits) (before : List QueueOperation)
    (operation : QueueOperation)
    (refused : (((empty limits).after before).perform operation).1.isOk = false) :
    let queue := (empty limits).after before
    let next := (queue.perform operation).2
    (∀ rest, (next.after rest).Shut ∧
      (next.after rest).held = (if rest.any QueueOperation.empties then [] else next.held) ∧
      next.letOut rest = parting next.held rest) ∧
    (next.Released ↔
      queue.held = [] ∨ queue.dead = false ∧ ∃ batch, operation = .write batch) := by
  intro queue next
  have spent : queue.dead = true → queue.packets = [] := after_spent fun _ => rfl
  have dead : next.Dead := perform_refused_dead spent refused
  refine ⟨fun rest => ⟨dead.run.1.shut, dead.run.2⟩, dead.released_iff.trans ?_⟩
  -- A queue that was dead before is left as it was, so that it counts what it held then.
  cases alive : queue.dead with
  | true =>
    obtain ⟨-, held, -⟩ := Dead.perform ⟨alive, spent alive⟩ operation
    rw [held, stays_of_refused refused]
    simp
  | false =>
    rcases perform_overflow alive refused with ⟨packet, rfl, left⟩ | ⟨batch, rfl, left⟩
    · simp [next, left]
    · simp [next, left]

/-- A packet too many, in a queue that is not active and holds a batch: the batch is still there
when the queue has overflowed, and draining the dead queue lets it out. -/
theorem overflow_releases_iff_held :
    let before : List QueueOperation :=
      [.setActive false, .write laterBatch, .push waitingPacket]
    let queue := (empty ⟨1, 1⟩).after before
    let next := (queue.perform (.push waitingPacket)).2
    (queue.perform (.push waitingPacket)).1.isOk = false ∧
      next.held = [laterBatch] ∧ next.letOut [.tick, .drain, .drain] = [laterBatch] ∧
      ¬next.Released := by
  intro before queue next
  have refused : (queue.perform (.push waitingPacket)).1.isOk = false := by decide +kernel
  have held : next.held = [laterBatch] := by decide +kernel
  obtain ⟨later, released⟩ := overflow_releases_iff ⟨1, 1⟩ before (.push waitingPacket) refused
  refine ⟨refused, held, ?_, ?_⟩
  · rw [(later [.tick, .drain, .drain]).2.2]
    decide +kernel
  · rw [released]
    rintro (unheld | ⟨-, batch, other⟩)
    · revert unheld
      decide +kernel
    · cases other

/-- Not every overflow releases everything. -/
theorem overflow_keeps_batch : ¬∀ (limits : QueueLimits) (before : List QueueOperation)
    (operation : QueueOperation),
    (((empty limits).after before).perform operation).1.isOk = false →
      (((empty limits).after before).perform operation).2.Released := by
  intro always
  have released := always ⟨1, 1⟩ [.setActive false, .write laterBatch, .push waitingPacket]
    (.push waitingPacket) (by decide +kernel)
  have silent := released.silent [.drain]
  revert silent
  decide +kernel

end OutboundQueue

end Ferry
