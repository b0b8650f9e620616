import Ferry.Proofs.Session.LinkTraffic

/-!
# What a queue lets out, and in what order

Whatever is done to a queue, each packet and each batch that has gone in is accounted for once:
it has been let out, it has been dropped by a release, or it is still there. The account is kept
in portions, each of which says where the batches that leave a queue come from.

Packets leave in the order in which they came, and so do batches. A batch can leave before a
packet that came earlier, though: while a queue is not active the two wait apart from each other,
and the batches go first once it lets them out.
-/

namespace Ferry

/-- What is done to a queue. -/
inductive QueueOperation
  | push (packet : BatchPacket)
  | write (batch : Batch)
  | tick
  | setActive (active : Bool)
  | drain
  | release
  deriving DecidableEq, Repr

namespace QueueOperation

/-- The packet that is queued. -/
def pushed : QueueOperation → List BatchPacket
  | .push packet => [packet]
  | _ => []

/-- The batch that is written, unless it overtakes the queue. -/
def written : QueueOperation → List Batch
  | .write batch => if batch.skipQueue then [] else [batch]
  | _ => []

/-- The batch that is written past the queue. -/
def hurried : QueueOperation → List Batch
  | .write batch => if batch.skipQueue then [batch] else []
  | _ => []

/-- Whether nothing stays in a queue, active or not. -/
def empties : QueueOperation → Bool
  | .setActive active => active
  | .drain | .release => true
  | _ => false

end QueueOperation

/-- What leaves a queue, by where it comes from. -/
inductive Portion
  /-- The single packets, in one batch. -/
  | queued (packets : List BatchPacket)
  /-- A batch in its turn. -/
  | whole (batch : Batch)
  /-- A batch that overtakes the queue. -/
  | hurried (batch : Batch)
  /-- What a release drops. -/
  | dropped (packets : List BatchPacket) (batches : List Batch)
  deriving DecidableEq, Repr

namespace Portion

/-- What is written of a portion. -/
def output : Portion → List Batch
  | .queued packets => [Batch.ofPackets packets]
  | .whole batch | .hurried batch => [batch]
  | .dropped _ _ => []

/-- The packets that were queued one by one. -/
def packets : Portion → List BatchPacket
  | .queued packets | .dropped packets _ => packets
  | _ => []

/-- The batches that have waited for their turn. -/
def batches : Portion → List Batch
  | .whole batch => [batch]
  | .dropped _ batches => batches
  | _ => []

/-- The batches that have overtaken the queue. -/
def past : Portion → List Batch
  | .hurried batch => [batch]
  | _ => []

/-- Whether a portion is lost. -/
def isDropped : Portion → Bool
  | .dropped _ _ => true
  | _ => false

end Portion

namespace OutboundQueue

/-- One operation: the batches to be written now, and what becomes of the queue. -/
def perform (queue : OutboundQueue) :
    QueueOperation → Except QueueOverflow (List Batch) × OutboundQueue
  | .push packet => ((queue.push packet).1.map fun _ => [], (queue.push packet).2.1)
  | .write batch => ((queue.write batch).1, (queue.write batch).2.1)
  | .tick => (queue.tick.1.map Option.toList, queue.tick.2)
  | .setActive true => (.ok queue.activate.1, queue.activate.2)
  | .setActive false => (.ok [], queue.deactivate)
  | .drain => (.ok queue.drain.1, queue.drain.2)
  | .release => (.ok [], queue.release.2)

/-- The queue that operations leave. -/
def after (queue : OutboundQueue) (operations : List QueueOperation) : OutboundQueue :=
  operations.foldl (fun queue operation => (queue.perform operation).2) queue

/-- What the operations answer, one after the other. -/
def answers (queue : OutboundQueue) :
    List QueueOperation → List (Except QueueOverflow (List Batch))
  | [] => []
  | operation :: operations =>
    (queue.perform operation).1 :: (queue.perform operation).2.answers operations

/-- No operation overflows. -/
def Flows (queue : OutboundQueue) (operations : List QueueOperation) : Prop :=
  ∀ answer ∈ queue.answers operations, answer.isOk = true

instance {queue : OutboundQueue} {operations : List QueueOperation} :
    Decidable (queue.Flows operations) := by
  unfold Flows
  infer_instance

/-- The single packets as a portion, unless there are none. -/
def queuedPortion (queue : OutboundQueue) : List Portion :=
  if queue.packets.isEmpty then [] else [.queued queue.packets]

/-- Everything as portions. -/
def allPortions (queue : OutboundQueue) : List Portion :=
  queue.held.map .whole ++ queue.queuedPortion

/-- What leaves at an operation. -/
def portions (queue : OutboundQueue) : QueueOperation → List Portion
  | .push _ | .setActive false => []
  | .write batch =>
    if batch.skipQueue then [.hurried batch]
    else if queue.active then queue.queuedPortion ++ [.whole batch] else []
  | .tick => if queue.active then queue.queuedPortion else []
  | .setActive true | .drain => queue.allPortions
  | .release => [.dropped queue.packets queue.held]

/-- What leaves at each of a row of operations. -/
def stories (queue : OutboundQueue) : List QueueOperation → List (List Portion)
  | [] => []
  | operation :: operations =>
    queue.portions operation :: (queue.perform operation).2.stories operations

/-- All that leaves during a row of operations. -/
def story (queue : OutboundQueue) (operations : List QueueOperation) : List Portion :=
  (queue.stories operations).flatten

/-- Between two states of a queue everything is accounted for: what was there and what has come in
is what has left and what is there now, in this order. -/
structure Accounts (queue next : OutboundQueue) (operations : List QueueOperation)
    (portions : List Portion) : Prop where
  packets : portions.flatMap Portion.packets ++ next.packets =
    queue.packets ++ operations.flatMap QueueOperation.pushed
  batches : portions.flatMap Portion.batches ++ next.held =
    queue.held ++ operations.flatMap QueueOperation.written
  past : portions.flatMap Portion.past = operations.flatMap QueueOperation.hurried

/-- No more is in a queue than its limits allow. -/
structure Bounded (queue : OutboundQueue) : Prop where
  packets : queue.packets.length ≤ queue.capacity
  held : queue.held.length ≤ queue.limits.maxBatches

/-- A queue that has not overflowed and holds nothing back while it is active. -/
structure Steady (queue : OutboundQueue) : Prop where
  alive : queue.dead = false
  held : queue.active = true → queue.held = []

/-- Among what leaves a queue, a batch that comes behind some others in its turn stands before
one of the packets, which are the first to leave. -/
def Overtakes (story : List Portion) (packets : List BatchPacket) (ahead : List Batch)
    (batch : Batch) : Prop :=
  ∃ early late, story = early ++ .whole batch :: late ∧
    early.flatMap Portion.batches = ahead ∧ ¬packets <+: early.flatMap Portion.packets

variable {queue next last : OutboundQueue} {operation : QueueOperation}
  {operations first second : List QueueOperation} {early late : List Portion}
  {packets more : List BatchPacket} {ahead behind : List Batch} {batch : Batch}

@[simp] theorem empty_limits {limits : QueueLimits} : (empty limits).limits = limits := rfl

/-! ## Runs -/

@[simp] theorem after_nil : queue.after [] = queue := rfl

@[simp] theorem after_cons :
    queue.after (operation :: operations) = (queue.perform operation).2.after operations := rfl

@[simp] theorem story_nil : queue.story [] = [] := rfl

@[simp] theorem story_cons : queue.story (operation :: operations) =
    queue.portions operation ++ (queue.perform operation).2.story operations := by
  simp [story, stories]

/-- What leaves at later operations leaves later. -/
theorem story_append :
    queue.story (first ++ second) = queue.story first ++ (queue.after first).story second := by
  induction first generalizing queue with
  | nil => rfl
  | cons operation first ih => simp [ih]

@[simp] theorem flows_nil : queue.Flows [] := by simp [Flows, answers]

@[simp] theorem flows_cons : queue.Flows (operation :: operations) ↔
    (queue.perform operation).1.isOk = true ∧ (queue.perform operation).2.Flows operations := by
  simp [Flows, answers]

/-- A row of operations overflows nowhere if neither of its parts does. -/
theorem flows_append : queue.Flows (first ++ second) ↔
    queue.Flows first ∧ (queue.after first).Flows second := by
  induction first generalizing queue with
  | nil => simp
  | cons operation first ih => simp [ih, and_assoc]

/-! ## Portions -/

/-- The queued packets are written as one batch. -/
@[simp] theorem queuedPortion_output :
    queue.queuedPortion.flatMap Portion.output = queue.queuedBatch := by
  unfold queuedPortion queuedBatch
  split <;> rfl

/-- The queued packets are all of that portion. -/
@[simp] theorem queuedPortion_packets :
    queue.queuedPortion.flatMap Portion.packets = queue.packets := by
  unfold queuedPortion
  split <;> simp_all [Portion.packets]

/-- No batch is among the queued packets. -/
@[simp] theorem queuedPortion_batches : queue.queuedPortion.flatMap Portion.batches = [] := by
  unfold queuedPortion
  split <;> rfl

/-- The queued packets overtake nothing. -/
@[simp] theorem queuedPortion_past : queue.queuedPortion.flatMap Portion.past = [] := by
  unfold queuedPortion
  split <;> rfl

/-- Batches that have waited are written as they are. -/
@[simp] theorem whole_output {batches : List Batch} :
    (batches.map Portion.whole).flatMap Portion.output = batches := by
  simp [List.flatMap_map, Portion.output]

/-- No single packet is among the batches that have waited. -/
@[simp] theorem whole_packets {batches : List Batch} :
    (batches.map Portion.whole).flatMap Portion.packets = [] := by
  simp [List.flatMap_map, Portion.packets]

/-- The batches that have waited are all of those portions. -/
@[simp] theorem whole_batches {batches : List Batch} :
    (batches.map Portion.whole).flatMap Portion.batches = batches := by
  simp [List.flatMap_map, Portion.batches]

/-- Batches that have waited overtake nothing. -/
@[simp] theorem whole_past {batches : List Batch} :
    (batches.map Portion.whole).flatMap Portion.past = [] := by
  simp [List.flatMap_map, Portion.past]

/-- Only a release drops anything. -/
theorem portions_kept {portion : Portion} (kept : operation ≠ .release)
    (mem : portion ∈ queue.portions operation) : portion.isDropped = false := by
  have queued : ∀ portion ∈ queue.queuedPortion, portion.isDropped = false := by
    unfold queuedPortion
    split <;> simp [Portion.isDropped]
  have all : ∀ portion ∈ queue.allPortions, portion.isDropped = false := by
    simp only [allPortions, List.forall_mem_append, List.forall_mem_map]
    exact ⟨fun _ _ => rfl, queued⟩
  cases operation with
  | push packet => simp [portions] at mem
  | write batch =>
    simp only [portions] at mem
    split at mem
    · simp_all [Portion.isDropped]
    · split at mem
      · rcases List.mem_append.mp mem with waiting | turn
        · exact queued portion waiting
        · simp_all [Portion.isDropped]
      · cases mem
  | tick =>
    simp only [portions] at mem
    split at mem
    · exact queued portion mem
    · cases mem
  | setActive active =>
    cases active with
    | true => exact all portion mem
    | false => cases mem
  | drain => exact all portion mem
  | release => exact absurd rfl kept

/-- Without a release nothing is lost. -/
theorem story_kept (kept : .release ∉ operations) :
    ∀ portion ∈ queue.story operations, portion.isDropped = false := by
  induction operations generalizing queue with
  | nil => simp
  | cons operation operations ih =>
    obtain ⟨other, rest⟩ := List.ne_and_not_mem_of_not_mem_cons kept
    rw [story_cons]
    exact List.forall_mem_append.mpr ⟨fun _ => portions_kept (Ne.symm other), ih rest⟩

/-! ## One operation -/

/-- What an operation does that does not overflow. -/
inductive Does (queue : OutboundQueue) : QueueOperation → OutboundQueue → Prop
  | queued {packet : BatchPacket} (room : queue.packets.length < queue.capacity) :
    Does queue (.push packet) { queue with packets := queue.packets ++ [packet] }
  | hurried {batch : Batch} (overtakes : batch.skipQueue = true) : Does queue (.write batch) queue
  | wrote {batch : Batch} (turn : batch.skipQueue = false) (active : queue.active = true) :
    Does queue (.write batch) { queue with packets := [] }
  | held {batch : Batch} (turn : batch.skipQueue = false) (idle : queue.active = false)
    (room : queue.held.length < queue.limits.maxBatches) :
    Does queue (.write batch) { queue with held := queue.held ++ [batch] }
  | ticked (active : queue.active = true) : Does queue .tick { queue with packets := [] }
  | waited (idle : queue.active = false) : Does queue .tick queue
  | opened : Does queue (.setActive true) { queue with active := true, packets := [], held := [] }
  | closed : Does queue (.setActive false) { queue with active := false }
  | drained : Does queue .drain { queue with packets := [], held := [] }
  | released : Does queue .release { queue with packets := [], held := [] }

/-- Where an operation does not overflow, what leaves is what it answers. -/
theorem perform_fine (fine : (queue.perform operation).1.isOk = true) :
    Does queue operation (queue.perform operation).2 ∧
      (queue.perform operation).1 = .ok ((queue.portions operation).flatMap Portion.output) := by
  cases operation with
  | push packet =>
    simp only [perform, push] at fine ⊢
    split at fine
    · cases fine
    · split at fine
      · next dead room =>
        rw [if_neg dead, if_pos room]
        exact ⟨.queued room, rfl⟩
      · cases fine
  | write batch =>
    simp only [perform, write, portions] at fine ⊢
    split at fine
    · cases fine
    next dead =>
    rw [if_neg dead]
    by_cases overtakes : batch.skipQueue = true
    · simp only [if_pos overtakes]
      exact ⟨.hurried overtakes, rfl⟩
    simp only [if_neg overtakes] at fine ⊢
    by_cases active : queue.active = true
    · simp only [if_pos active]
      exact ⟨.wrote (by simpa using overtakes) active, by simp [Portion.output]⟩
    simp only [if_neg active] at fine ⊢
    split at fine
    · next room =>
      simp only [if_pos room]
      rw [List.length_append] at room
      exact ⟨.held (by simpa using overtakes) (by simpa using active) room, rfl⟩
    · cases fine
  | tick =>
    simp only [perform, tick, portions] at fine ⊢
    split at fine
    · cases fine
    next dead =>
    rw [if_neg dead]
    by_cases active : queue.active = true
    · simp only [if_pos active]
      exact ⟨.ticked active, by simp [Except.map]⟩
    · simp only [if_neg active]
      exact ⟨.waited (by simpa using active), rfl⟩
  | setActive active =>
    cases active with
    | true =>
      have same : queue.activate.1 = queue.drain.1 := rfl
      exact ⟨.opened, by simp [perform, same, drain, portions, allPortions]⟩
    | false => exact ⟨.closed, rfl⟩
  | drain => exact ⟨.drained, by simp [perform, drain, portions, allPortions]⟩
  | release => exact ⟨.released, rfl⟩

/-- An operation that overflows leaves no more in the queue than there was. -/
theorem perform_refused (refused : (queue.perform operation).1.isOk = false) :
    (queue.perform operation).2.limits = queue.limits ∧
      (queue.perform operation).2.packets.length ≤ queue.packets.length ∧
      (queue.perform operation).2.held.length ≤ queue.held.length := by
  cases operation with
  | push packet =>
    simp only [perform, push, overflow] at refused ⊢
    split
    · exact ⟨rfl, Nat.le_refl _, Nat.le_refl _⟩
    · split
      · simp_all [Except.isOk, Except.toBool, Except.map]
      · exact ⟨rfl, Nat.zero_le _, Nat.le_refl _⟩
  | write batch =>
    simp only [perform, write, overflow] at refused ⊢
    split
    · exact ⟨rfl, Nat.le_refl _, Nat.le_refl _⟩
    · split
      · exact ⟨rfl, Nat.le_refl _, Nat.le_refl _⟩
      · split
        · exact ⟨rfl, Nat.zero_le _, Nat.le_refl _⟩
        · split
          · simp_all [Except.isOk, Except.toBool]
          · exact ⟨rfl, Nat.zero_le _, Nat.zero_le _⟩
  | tick =>
    simp only [perform, tick] at refused ⊢
    split
    · exact ⟨rfl, Nat.le_refl _, Nat.le_refl _⟩
    · split
      · exact ⟨rfl, Nat.zero_le _, Nat.le_refl _⟩
      · exact ⟨rfl, Nat.le_refl _, Nat.le_refl _⟩
  | setActive active => cases active <;> cases refused
  | drain => cases refused
  | release => cases refused

/-! ## What there is room for -/

/-- An operation leaves the limits. -/
theorem Does.limits (does : queue.Does operation next) : next.limits = queue.limits := by
  cases does <;> rfl

/-- No operation changes the limits. -/
@[simp] theorem perform_limits : (queue.perform operation).2.limits = queue.limits := by
  cases fine : (queue.perform operation).1.isOk with
  | true => exact (perform_fine fine).1.limits
  | false => exact (perform_refused fine).1

/-- No row of operations changes the limits. -/
@[simp] theorem after_limits : (queue.after operations).limits = queue.limits := by
  induction operations generalizing queue with
  | nil => rfl
  | cons operation operations ih => rw [after_cons, ih, perform_limits]

/-- An operation that does not overflow takes in no more than there is room for. -/
theorem Does.bounded (does : queue.Does operation next) (bounded : queue.Bounded) :
    next.Bounded := by
  cases does with
  | queued room => exact ⟨by simpa [capacity] using Nat.succ_le_of_lt room, bounded.held⟩
  | hurried => exact bounded
  | wrote => exact ⟨Nat.zero_le _, bounded.held⟩
  | held _ _ room => exact ⟨bounded.packets, by simpa using Nat.succ_le_of_lt room⟩
  | ticked => exact ⟨Nat.zero_le _, bounded.held⟩
  | waited => exact bounded
  | opened => exact ⟨Nat.zero_le _, Nat.zero_le _⟩
  | closed => exact ⟨bounded.packets, bounded.held⟩
  | drained => exact ⟨Nat.zero_le _, Nat.zero_le _⟩
  | released => exact ⟨Nat.zero_le _, Nat.zero_le _⟩

/-- No operation, not even one that overflows, takes in more than there is room for. -/
theorem perform_bounded (bounded : queue.Bounded) : (queue.perform operation).2.Bounded := by
  cases fine : (queue.perform operation).1.isOk with
  | true => exact (perform_fine fine).1.bounded bounded
  | false =>
    obtain ⟨limits, packets, held⟩ := perform_refused fine
    constructor
    · rw [capacity, limits]
      exact Nat.le_trans packets bounded.packets
    · rw [limits]
      exact Nat.le_trans held bounded.held

/-- No row of operations takes in more than there is room for. -/
theorem after_bounded (bounded : queue.Bounded) : (queue.after operations).Bounded := by
  induction operations generalizing queue with
  | nil => exact bounded
  | cons operation operations ih => exact ih (perform_bounded bounded)

/-- An empty queue is within its limits. -/
theorem empty_bounded {limits : QueueLimits} : (empty limits).Bounded :=
  ⟨Nat.zero_le _, Nat.zero_le _⟩

/-! ## What is accounted for -/

/-- Where nothing is done, nothing has to be accounted for. -/
theorem Accounts.refl : Accounts queue queue [] [] := ⟨by simp, by simp, rfl⟩

/-- Two rows of operations that are accounted for are so one behind the other. -/
theorem Accounts.trans (here : Accounts queue next first early)
    (there : Accounts next last second late) :
    Accounts queue last (first ++ second) (early ++ late) where
  packets := by
    rw [List.flatMap_append, List.append_assoc, there.packets, ← List.append_assoc,
      here.packets, List.append_assoc, List.flatMap_append]
  batches := by
    rw [List.flatMap_append, List.append_assoc, there.batches, ← List.append_assoc,
      here.batches, List.append_assoc, List.flatMap_append]
  past := by rw [List.flatMap_append, List.flatMap_append, here.past, there.past]

/-- An empty queue is steady. -/
theorem empty_steady {limits : QueueLimits} : (empty limits).Steady := ⟨rfl, fun _ => rfl⟩

/-- An operation that does not overflow leaves a queue steady. -/
theorem Does.steady (does : queue.Does operation next) (steady : queue.Steady) : next.Steady := by
  cases does with
  | held _ idle => exact ⟨steady.alive, fun active => by simp [idle] at active⟩
  | opened => exact ⟨steady.alive, fun _ => rfl⟩
  | closed => exact ⟨steady.alive, fun active => by cases active⟩
  | drained => exact ⟨steady.alive, fun _ => rfl⟩
  | released => exact ⟨steady.alive, fun _ => rfl⟩
  | _ => exact ⟨steady.alive, steady.held⟩

/-- One operation of a steady queue accounts for what moves. -/
theorem Does.accounts (does : queue.Does operation next) (steady : queue.Steady) :
    Accounts queue next [operation] (queue.portions operation) := by
  cases does with
  | queued => exact ⟨by simp [portions, QueueOperation.pushed],
      by simp [portions, QueueOperation.written], rfl⟩
  | hurried overtakes =>
    constructor <;> simp [portions, overtakes, Portion.packets, Portion.batches, Portion.past,
      QueueOperation.pushed, QueueOperation.written, QueueOperation.hurried]
  | wrote turn active =>
    constructor <;> simp [portions, turn, active, steady.held active, Portion.packets,
      Portion.batches, Portion.past, QueueOperation.pushed, QueueOperation.written,
      QueueOperation.hurried]
  | held turn idle =>
    constructor <;> simp [portions, turn, idle, QueueOperation.pushed, QueueOperation.written,
      QueueOperation.hurried]
  | ticked active =>
    constructor <;> simp [portions, active, QueueOperation.pushed, QueueOperation.written,
      QueueOperation.hurried]
  | waited idle =>
    constructor <;> simp [portions, idle, QueueOperation.pushed, QueueOperation.written,
      QueueOperation.hurried]
  | opened =>
    constructor <;> simp [portions, allPortions, QueueOperation.pushed, QueueOperation.written,
      QueueOperation.hurried]
  | closed =>
    constructor <;> simp [portions, QueueOperation.pushed, QueueOperation.written,
      QueueOperation.hurried]
  | drained =>
    constructor <;> simp [portions, allPortions, QueueOperation.pushed, QueueOperation.written,
      QueueOperation.hurried]
  | released =>
    constructor <;> simp [portions, Portion.packets, Portion.batches, Portion.past,
      QueueOperation.pushed, QueueOperation.written, QueueOperation.hurried]

/-- A run that does not overflow stays steady and accounts for everything. -/
theorem run_accounts (steady : queue.Steady) (flows : queue.Flows operations) :
    (queue.after operations).Steady ∧
      Accounts queue (queue.after operations) operations (queue.story operations) := by
  induction operations generalizing queue with
  | nil => exact ⟨steady, .refl⟩
  | cons operation operations ih =>
    obtain ⟨fine, rest⟩ := flows_cons.mp flows
    obtain ⟨does, _⟩ := perform_fine fine
    obtain ⟨last, accounts⟩ := ih (does.steady steady) rest
    refine ⟨last, ?_⟩
    rw [story_cons]
    exact (does.accounts steady).trans accounts

/-- Where nothing overflows, the portions are what is written. -/
theorem answers_story (flows : queue.Flows operations) : queue.answers operations =
    (queue.stories operations).map fun portions => .ok (portions.flatMap Portion.output) := by
  induction operations generalizing queue with
  | nil => rfl
  | cons operation operations ih =>
    obtain ⟨fine, rest⟩ := flows_cons.mp flows
    rw [answers, stories, List.map_cons, ih rest, (perform_fine fine).2]

/-- A queue that is not active lets nothing out unless it is emptied, except for a batch that
overtakes. -/
theorem idle_output (idle : queue.active = false) (stays : operation.empties = false) :
    (queue.portions operation).flatMap Portion.output = operation.hurried := by
  cases operation with
  | write batch => cases overtakes : batch.skipQueue <;>
      simp [portions, idle, overtakes, Portion.output, QueueOperation.hurried]
  | setActive active => cases stays; rfl
  | _ => simp_all [portions, QueueOperation.hurried, QueueOperation.empties]

/-- Whatever a sequence of operations is done to a new queue, there are never more packets and
batches in it than there is room for. If no operation overflows, and none drops what there is,
then each answers with the portions that leave; each packet and each batch that has gone in is in
these portions or still in the queue, once and in its turn, with the batches that overtake aside;
and while the queue is not active, an operation that does not empty it answers with nothing but a
batch that overtakes. -/
theorem nothing_is_lost (limits : QueueLimits) (operations : List QueueOperation) :
    ((empty limits).after operations).packets.length ≤ max 1 limits.maxPackets ∧
    ((empty limits).after operations).held.length ≤ limits.maxBatches ∧
    ((empty limits).Flows operations → .release ∉ operations →
      ((empty limits).answers operations = ((empty limits).stories operations).map
        fun portions => .ok (portions.flatMap Portion.output)) ∧
      (∀ portion ∈ (empty limits).story operations, portion.isDropped = false) ∧
      Accounts (empty limits) ((empty limits).after operations) operations
        ((empty limits).story operations) ∧
      ∀ before operation rest, operations = before ++ operation :: rest →
        ((empty limits).after before).active = false → operation.empties = false →
        (((empty limits).after before).perform operation).1 = .ok operation.hurried) := by
  have bounded : ((empty limits).after operations).Bounded := after_bounded empty_bounded
  refine ⟨by simpa [capacity] using bounded.packets, by simpa using bounded.held, ?_⟩
  intro flows kept
  refine ⟨answers_story flows, story_kept kept, (run_accounts empty_steady flows).2, ?_⟩
  intro before operation rest split idle stays
  subst split
  obtain ⟨fine, _⟩ := flows_cons.mp (flows_append.mp flows).2
  rw [(perform_fine fine).2, idle_output idle stays]

/-- A packet that waits for a queue to be active. -/
def waitingPacket : BatchPacket := .received (Header.ofId 14) [2]

/-- A batch that is written behind it. -/
def laterBatch : Batch := .ofPackets [.received (Header.ofId 14) [4]]

/-- A queue that has room for one packet and one batch takes both in while it is not active, lets
another batch past them, and has both let out in the end. -/
theorem nothing_is_lost_reopened :
    let limits : QueueLimits := ⟨1, 1⟩
    let urgent := { laterBatch with skipQueue := true }
    let operations := [.setActive false, .push waitingPacket, .write laterBatch, .tick,
      .write urgent, .setActive true]
    ((empty limits).Flows operations ∧ .release ∉ operations) ∧
      Accounts (empty limits) ((empty limits).after operations) operations
        ((empty limits).story operations) ∧
      (empty limits).answers operations = [.ok [], .ok [], .ok [], .ok [], .ok [urgent],
        .ok [laterBatch, .ofPackets [waitingPacket]]] := by
  intro limits urgent operations
  have flows : (empty limits).Flows operations := by decide +kernel
  have kept : .release ∉ operations := by decide
  obtain ⟨-, -, rest⟩ := nothing_is_lost limits operations
  obtain ⟨answers, -, accounts, -⟩ := rest flows kept
  exact ⟨⟨flows, kept⟩, accounts, by rw [answers]; rfl⟩

/-! ## What overtakes what -/

/-- What left before does not matter to what is still there. -/
theorem overtakes_append {all : List BatchPacket} {before : List Batch}
    (queued : early.flatMap Portion.packets ++ packets = all)
    (written : early.flatMap Portion.batches ++ ahead = before) :
    Overtakes (early ++ late) all before batch ↔ Overtakes late packets ahead batch := by
  subst queued written
  constructor
  · rintro ⟨front, rest, split, before, missing⟩
    rcases List.append_eq_append_iff.mp split with ⟨tail, rfl, rest⟩ | ⟨tail, rfl, rest⟩
    · refine ⟨tail, _, rest, by simpa using before, ?_⟩
      simpa [List.prefix_append_right_inj] using missing
    · cases tail with
      | nil =>
        refine ⟨[], _, rest.symm, by simpa using before, fun empty => missing ?_⟩
        simp [List.prefix_nil.mp empty]
      | cons portion tail =>
        obtain ⟨rfl, -⟩ := List.cons.inj rest
        simp [Portion.batches] at before
  · rintro ⟨front, rest, rfl, rfl, missing⟩
    refine ⟨early ++ front, rest, by simp, by simp, ?_⟩
    simpa [List.prefix_append_right_inj] using missing

/-- A batch that leaves at once overtakes the packets that are still there. -/
theorem overtakes_now : Overtakes (.whole batch :: late) packets [] batch ↔ packets ≠ [] := by
  constructor
  · rintro ⟨front, rest, split, ahead, missing⟩ rfl
    exact missing (List.nil_prefix)
  · intro waiting
    exact ⟨[], late, rfl, rfl, by simpa using waiting⟩

/-- A batch that is dropped overtakes nothing. -/
theorem not_overtakes_dropped {dropped : List BatchPacket} : ¬Overtakes
    (.dropped dropped (ahead ++ batch :: behind) :: late) packets ahead batch := by
  rintro ⟨front, rest, split, before, -⟩
  cases front with
  | nil => cases split
  | cons portion front =>
    obtain ⟨rfl, -⟩ := List.cons.inj split
    simp [Portion.batches] at before

/-- A queue that is not active only takes in more, unless it is emptied. -/
theorem Does.idle (does : queue.Does operation next) (idle : queue.active = false)
    (stays : operation.empties = false) : next.active = false ∧
      (∃ packets, next.packets = queue.packets ++ packets) ∧
      (∃ batches, next.held = queue.held ++ batches) ∧
      (queue.portions operation).flatMap Portion.packets = [] ∧
      (queue.portions operation).flatMap Portion.batches = [] := by
  cases does with
  | @queued packet => exact ⟨idle, ⟨[packet], rfl⟩, ⟨[], by simp⟩, rfl, rfl⟩
  | hurried overtakes =>
    refine ⟨idle, ⟨[], by simp⟩, ⟨[], by simp⟩, ?_, ?_⟩ <;>
      simp [portions, overtakes, Portion.packets, Portion.batches]
  | wrote _ active => simp [idle] at active
  | @held batch turn =>
    refine ⟨idle, ⟨[], by simp⟩, ⟨[batch], rfl⟩, ?_, ?_⟩ <;> simp [portions, turn, idle]
  | ticked active => simp [idle] at active
  | waited =>
    refine ⟨idle, ⟨[], by simp⟩, ⟨[], by simp⟩, ?_, ?_⟩ <;> simp [portions, idle]
  | closed => exact ⟨rfl, ⟨[], by simp⟩, ⟨[], by simp⟩, rfl, rfl⟩
  | opened | drained | released => cases stays

/-- When everything is let out, what is held overtakes what is queued. -/
theorem overtakes_all (held : queue.held = ahead ++ batch :: behind) :
    Overtakes (queue.allPortions ++ late) packets ahead batch ↔ packets ≠ [] := by
  have split : queue.allPortions ++ late = ahead.map Portion.whole ++
      .whole batch :: (behind.map Portion.whole ++ queue.queuedPortion ++ late) := by
    simp [allPortions, held]
  rw [split]
  exact (overtakes_append (by simp) (by simp)).trans overtakes_now

/-- While a queue is not active, a batch that it holds overtakes the packets in it exactly if
they are the next to be let out, and not dropped. -/
theorem held_overtakes_iff (flows : queue.Flows operations) (idle : queue.active = false)
    (queued : queue.packets = packets ++ more) (held : queue.held = ahead ++ batch :: behind) :
    Overtakes (queue.story operations) packets ahead batch ↔ packets ≠ [] ∧
      ∃ operation, operations.find? QueueOperation.empties = some operation ∧
        operation ≠ .release := by
  induction operations generalizing queue more behind with
  | nil => simp [Overtakes]
  | cons operation operations ih =>
    obtain ⟨fine, rest⟩ := flows_cons.mp flows
    rw [story_cons]
    cases emptied : operation.empties with
    | false =>
      obtain ⟨still, ⟨added, queuedNow⟩, ⟨added', heldNow⟩, noPackets, noBatches⟩ :=
        (perform_fine fine).1.idle idle emptied
      rw [List.find?_cons_of_neg (by simp [emptied])]
      rw [queued, List.append_assoc] at queuedNow
      rw [held, List.append_assoc, List.cons_append] at heldNow
      exact (overtakes_append (by rw [noPackets, List.nil_append])
        (by rw [noBatches, List.nil_append])).trans (ih rest still queuedNow heldNow)
    | true =>
      rw [List.find?_cons_of_pos emptied]
      cases operation with
      | setActive active => cases emptied; simpa [portions] using overtakes_all held
      | drain => simpa [portions] using overtakes_all held
      | release => simpa [portions, held] using not_overtakes_dropped
      | push packet => cases emptied
      | write other => cases emptied
      | tick => cases emptied

/-- A batch that is written in its turn overtakes what is queued exactly if the queue is not active
and lets it out before it is released. -/
theorem write_overtakes_iff {rest : List QueueOperation} (steady : queue.Steady)
    (turn : batch.skipQueue = false) (flows : queue.Flows (.write batch :: rest)) :
    Overtakes (queue.story (.write batch :: rest)) queue.packets queue.held batch ↔
      queue.active = false ∧ queue.packets ≠ [] ∧
      ∃ operation, rest.find? QueueOperation.empties = some operation ∧
        operation ≠ .release := by
  obtain ⟨fine, onward⟩ := flows_cons.mp flows
  rw [story_cons]
  cases active : queue.active with
  | true =>
    -- the packets go out ahead of the batch
    have split : queue.portions (.write batch) = queue.queuedPortion ++ [.whole batch] := by
      simp [portions, turn, active]
    rw [split, steady.held active, List.append_assoc, List.singleton_append]
    have first : ¬Overtakes (queue.queuedPortion ++ .whole batch ::
        (queue.perform (.write batch)).2.story rest) queue.packets [] batch := by
      rw [overtakes_append (by rw [queuedPortion_packets, List.append_nil])
        (by rw [queuedPortion_batches, List.append_nil]), overtakes_now]
      exact fun differs => differs rfl
    simp [first]
  | false =>
    have held : (queue.perform (.write batch)).2 =
        { queue with held := queue.held ++ [batch] } := by
      have does := (perform_fine fine).1
      generalize (queue.perform (.write batch)).2 = next at does
      cases does with
      | hurried overtakes => simp [turn] at overtakes
      | wrote _ lets => simp [active] at lets
      | held => rfl
    rw [held] at onward ⊢
    have overtakes := held_overtakes_iff onward active (List.append_nil _).symm rfl
    simpa [portions, turn, active] using overtakes

/-- A batch that is written in its turn overtakes a packet that was queued before it exactly if
the queue is not active when it is written, there is a packet in it, and what empties the queue
next lets everything out: it is made active, or drained, before a release drops both. -/
theorem batch_overtakes_iff (limits : QueueLimits) (before rest : List QueueOperation)
    (batch : Batch) (turn : batch.skipQueue = false)
    (flows : (empty limits).Flows (before ++ .write batch :: rest)) :
    Overtakes ((empty limits).story (before ++ .write batch :: rest))
        (before.flatMap QueueOperation.pushed) (before.flatMap QueueOperation.written) batch ↔
      ((empty limits).after before).active = false ∧
      ((empty limits).after before).packets ≠ [] ∧
      ∃ operation, rest.find? QueueOperation.empties = some operation ∧
        operation ≠ .release := by
  obtain ⟨earlier, later⟩ := flows_append.mp flows
  obtain ⟨steady, accounts⟩ := run_accounts empty_steady earlier
  rw [story_append]
  exact (overtakes_append accounts.packets accounts.batches).trans
    (write_overtakes_iff steady turn later)

/-- A batch that is held back with a packet overtakes it. -/
theorem batch_overtakes_waiting :
    (laterBatch.skipQueue = false ∧ (empty .default).Flows
      ([.setActive false, .push waitingPacket] ++ .write laterBatch :: [.setActive true])) ∧
    Overtakes ((empty .default).story
      ([.setActive false, .push waitingPacket] ++ .write laterBatch :: [.setActive true]))
      [waitingPacket] [] laterBatch := by
  have flows : (empty .default).Flows
      ([.setActive false, .push waitingPacket] ++ .write laterBatch :: [.setActive true]) := by
    decide +kernel
  refine ⟨⟨rfl, flows⟩, (batch_overtakes_iff .default _ _ laterBatch rfl flows).mpr ?_⟩
  exact ⟨rfl, by decide +kernel, .setActive true, rfl, by decide⟩

/-- Not every batch that is written in its turn leaves a queue behind the packets that were queued
before it. -/
theorem order_is_not_kept : ¬∀ (limits : QueueLimits) (before rest : List QueueOperation)
    (batch : Batch), (empty limits).Flows (before ++ .write batch :: rest) →
    (∀ operation ∈ before ++ .write batch :: rest, operation.hurried = []) →
    ¬Overtakes ((empty limits).story (before ++ .write batch :: rest))
      (before.flatMap QueueOperation.pushed) (before.flatMap QueueOperation.written) batch := by
  intro kept
  refine kept .default [.setActive false, .push waitingPacket] [.setActive true] laterBatch
    (by decide +kernel) (by decide) ?_
  exact ⟨[], [.queued [waitingPacket]], rfl, rfl, by simp [QueueOperation.pushed]⟩

end OutboundQueue

end Ferry
