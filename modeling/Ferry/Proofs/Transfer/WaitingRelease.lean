import Ferry.Transfer.Waiting
import Mathlib.Data.List.DropRight

/-!
# What waits, and how it is released

Whatever has been done to the packets that wait, those that wait now are the ones that were pushed
since nothing waited, in order, but for events that are only seen. A push leaves nothing waiting
exactly where these would be too many. A release gives out all of them in batches, of which only
the last may be smaller than the others.
-/

namespace Ferry

/-- What is done to the packets that wait. -/
inductive WaitingOperation
  | push (batch : Batch)
  | release
  deriving DecidableEq, Repr

/-- The packets that an operation brings. -/
def WaitingOperation.pushed : WaitingOperation → List BatchPacket
  | .push batch => batch.packets
  | .release => []

/-- Whether a list is cut into parts of one size, but for the last, which may be smaller and is not
empty. -/
structure IsCut {α : Type} (size : Nat) (parts : List (List α)) : Prop where
  full : ∀ part ∈ parts.dropLast, part.length = size
  last : ∀ part ∈ parts.getLast?, part ≠ [] ∧ part.length ≤ size

namespace Waiting

/-- What an operation leaves waiting. -/
def perform (waiting : Waiting) : WaitingOperation → Waiting
  | .push batch => (waiting.push batch).2
  | .release => waiting.release.2

/-- What a row of operations leaves waiting. -/
def after (waiting : Waiting) (operations : List WaitingOperation) : Waiting :=
  operations.foldl perform waiting

/-- Whether an operation is a release, or a push that fails. -/
def clears (waiting : Waiting) : WaitingOperation → Bool
  | .push batch => !(waiting.push batch).1.isOk
  | .release => true

/-- A row of operations, and whether each of them is a release or a push that fails. -/
def log (waiting : Waiting) : List WaitingOperation → List (WaitingOperation × Bool)
  | [] => []
  | operation :: operations =>
    (operation, waiting.clears operation) :: (waiting.perform operation).log operations

/-- The packets of a batch that wait: all but events that are only seen. -/
def kept (packets : List BatchPacket) : List BatchPacket :=
  packets.filter fun packet => packet.header.id != PacketId.levelEventGeneric

/-- The packets that were pushed since the last release or failure of a row of operations, but for
events that are only seen. -/
def recent (waiting : Waiting) (operations : List WaitingOperation) : List BatchPacket :=
  ((waiting.log operations).rtakeWhile fun entry => !entry.2).flatMap
    fun entry => kept entry.1.pushed

variable {waiting : Waiting} {operation : WaitingOperation} {operations : List WaitingOperation}
  {batch : Batch}

/-! ## Single operations -/

/-- Packets that are not too many wait behind those that wait already. -/
theorem push_of_le (room : (waiting.packets ++ kept batch.packets).length ≤ waiting.limits.hard) :
    waiting.push batch = (.ok (), { waiting with
      packets := waiting.packets ++ kept batch.packets
      dropped := waiting.dropped + batch.packets.countP isDropped }) := by
  unfold push
  exact if_neg (Nat.not_lt.mpr room)

/-- Packets that are too many leave nothing waiting. -/
theorem push_of_lt (full : waiting.limits.hard < (waiting.packets ++ kept batch.packets).length) :
    waiting.push batch = (.error ⟨waiting.limits.hard⟩, { waiting with
      packets := []
      dropped := waiting.dropped + batch.packets.countP isDropped }) := by
  unfold push
  exact if_pos full

/-- A push either finds room for what it brings or leaves nothing waiting. -/
theorem push_cases (waiting : Waiting) (batch : Batch) :
    ((waiting.packets ++ kept batch.packets).length ≤ waiting.limits.hard ∧
      waiting.push batch = (.ok (), { waiting with
        packets := waiting.packets ++ kept batch.packets
        dropped := waiting.dropped + batch.packets.countP isDropped })) ∨
    (waiting.limits.hard < (waiting.packets ++ kept batch.packets).length ∧
      waiting.push batch = (.error ⟨waiting.limits.hard⟩, { waiting with
        packets := []
        dropped := waiting.dropped + batch.packets.countP isDropped })) := by
  rcases Nat.lt_or_ge waiting.limits.hard (waiting.packets ++ kept batch.packets).length
    with full | room
  · exact .inr ⟨full, push_of_lt full⟩
  · exact .inl ⟨room, push_of_le room⟩

/-- Packets whose push succeeds wait behind those that wait already. -/
theorem push_packets {done : Unit} (pushed : (waiting.push batch).1 = .ok done) :
    (waiting.push batch).2.packets =
      waiting.packets ++ batch.packets.filter fun packet => !isDropped packet := by
  obtain ⟨-, result⟩ | ⟨-, result⟩ := push_cases waiting batch
  · rw [result]
    rfl
  · rw [result] at pushed
    cases pushed

/-- No operation changes the limits. -/
@[simp] theorem perform_limits : (waiting.perform operation).limits = waiting.limits := by
  cases operation with
  | push batch =>
    obtain ⟨-, result⟩ | ⟨-, result⟩ := push_cases waiting batch
    · simp only [perform, result]
    · simp only [perform, result]
  | release => rfl

/-- Every event that is only seen is counted, whether or not the others find room. -/
theorem perform_dropped : (waiting.perform operation).dropped =
    waiting.dropped + operation.pushed.countP isDropped := by
  cases operation with
  | push batch =>
    obtain ⟨-, result⟩ | ⟨-, result⟩ := push_cases waiting batch
    · simp only [perform, result, WaitingOperation.pushed]
    · simp only [perform, result, WaitingOperation.pushed]
  | release => rfl

/-- An operation that clears leaves nothing waiting, and any other leaves what it brings behind
what has waited already. -/
theorem perform_packets : (waiting.perform operation).packets =
    if waiting.clears operation then [] else waiting.packets ++ kept operation.pushed := by
  cases operation with
  | push batch =>
    obtain ⟨-, result⟩ | ⟨-, result⟩ := push_cases waiting batch
    · simp [perform, clears, result, Except.isOk, Except.toBool, WaitingOperation.pushed]
    · simp [perform, clears, result, Except.isOk, Except.toBool]
  | release => rfl

/-- No more waits after an operation than the limits allow. -/
theorem perform_bounded : (waiting.perform operation).packets.length ≤ waiting.limits.hard := by
  cases operation with
  | push batch =>
    obtain ⟨room, result⟩ | ⟨-, result⟩ := push_cases waiting batch
    · simpa only [perform, result] using room
    · simp only [perform, result]
      exact Nat.zero_le _
  | release => exact Nat.zero_le _

/-! ## Rows of operations -/

/-- The last operation is done last. -/
@[simp] theorem after_snoc :
    waiting.after (operations ++ [operation]) = (waiting.after operations).perform operation := by
  simp [after]

/-- The last operation is noted last. -/
theorem log_snoc : waiting.log (operations ++ [operation]) =
    waiting.log operations ++ [(operation, (waiting.after operations).clears operation)] := by
  induction operations generalizing waiting with
  | nil => rfl
  | cons first operations ih =>
    simp only [List.cons_append, log, ih]
    rfl

/-- What the last operation brings is recent, unless it clears what waits. -/
theorem recent_snoc : waiting.recent (operations ++ [operation]) =
    if (waiting.after operations).clears operation then []
    else waiting.recent operations ++ kept operation.pushed := by
  unfold recent
  rw [log_snoc, List.rtakeWhile_concat]
  cases (waiting.after operations).clears operation <;> simp

/-- No row of operations changes the limits. -/
@[simp] theorem after_limits : (waiting.after operations).limits = waiting.limits := by
  induction operations using List.reverseRecOn with
  | nil => rfl
  | append_singleton operations operation ih => rw [after_snoc, perform_limits, ih]

/-- Every event that is only seen is counted, and nothing else. -/
theorem after_dropped : (waiting.after operations).dropped =
    waiting.dropped + (operations.flatMap WaitingOperation.pushed).countP isDropped := by
  induction operations using List.reverseRecOn with
  | nil => rfl
  | append_singleton operations operation ih =>
    rw [after_snoc, perform_dropped, ih, List.flatMap_append, List.flatMap_singleton,
      List.countP_append, Nat.add_assoc]

/-- What waits is what was pushed since nothing waited. -/
theorem after_packets (empty : waiting.packets = []) :
    (waiting.after operations).packets = waiting.recent operations := by
  induction operations using List.reverseRecOn with
  | nil => exact empty
  | append_singleton operations operation ih => rw [after_snoc, perform_packets, recent_snoc, ih]

/-- No more waits than the hard limit allows. -/
theorem after_bounded (empty : waiting.packets = []) :
    (waiting.after operations).packets.length ≤ waiting.limits.hard := by
  induction operations using List.reverseRecOn with
  | nil =>
    rw [after, List.foldl_nil, empty]
    exact Nat.zero_le _
  | append_singleton operations operation =>
    have same : (waiting.after operations).limits = waiting.limits := after_limits
    rw [after_snoc, ← same]
    exact perform_bounded

/-! ## Releases -/

/-- Nothing is lost where a list is cut, and the order is kept. -/
theorem pieces_flatten {α : Type} (size : Nat) (values : List α) :
    (pieces size values).flatten = values := by
  fun_induction pieces size values with
  | case1 => rfl
  | case2 first rest ih => simp [ih]

/-- A piece is full where another follows it. -/
theorem pieces_isCut {α : Type} (size : Nat) (values : List α) :
    IsCut (size + 1) (pieces size values) := by
  fun_induction pieces size values with
  | case1 => exact ⟨by simp, by simp⟩
  | case2 first rest ih =>
    cases more : pieces size (rest.drop size) with
    | nil =>
      refine ⟨by simp, ?_⟩
      simp only [List.getLast?_singleton, Option.mem_some_iff, forall_eq']
      refine ⟨List.cons_ne_nil _ _, ?_⟩
      rw [List.length_cons, List.length_take]
      omega
    | cons next others =>
      -- Another piece follows only if more than `size` elements are behind the first.
      have long : size < rest.length := by
        by_contra short
        rw [List.drop_eq_nil_of_le (Nat.not_lt.mp short), pieces] at more
        cases more
      rw [more] at ih
      constructor
      · rw [List.dropLast_cons_cons, List.forall_mem_cons]
        refine ⟨?_, ih.full⟩
        rw [List.length_cons, List.length_take]
        omega
      · rw [List.getLast?_cons_cons]
        exact ih.last

/-- Whatever has been done since nothing waited, these hold of the packets that wait. They are the
packets that were pushed since the last release or failure, in order, but for events that are only
seen, and no more than the limit. All these events are counted, and nothing else. The next push
fails exactly if what then is to wait would be more than the limit, and leaves nothing waiting.
The next release gives out what waits, in order, in batches that are all of the configured size, or
of one packet where that is 0, but for the last, which may be smaller and is not empty; and it
leaves nothing waiting. -/
theorem after_releases (limits : WaitingLimits) (operations : List WaitingOperation) :
    let waiting := (empty limits).after operations
    let recent := (empty limits).recent operations
    (waiting.packets = recent ∧ waiting.packets.length ≤ limits.hard ∧
      waiting.dropped = (operations.flatMap WaitingOperation.pushed).countP fun packet =>
        packet.header.id == PacketId.levelEventGeneric) ∧
    (∀ batch,
      let due := recent ++ batch.packets.filter fun packet =>
        packet.header.id != PacketId.levelEventGeneric
      if limits.hard < due.length then
        (waiting.push batch).1 = .error ⟨limits.hard⟩ ∧ (waiting.push batch).2.packets = []
      else (waiting.push batch).1 = .ok () ∧ (waiting.push batch).2.packets = due) ∧
    (∃ parts : List (List BatchPacket), waiting.release.1 = parts.map Batch.ofPackets ∧
      parts.flatten = recent ∧ IsCut (max 1 limits.releaseBatch) parts) ∧
    waiting.release.2.packets = [] := by
  intro waiting recent
  have same : waiting.limits = limits := after_limits
  have waits : waiting.packets = recent := after_packets rfl
  refine ⟨⟨waits, after_bounded rfl, ?_⟩, fun batch => ?_, ?_, rfl⟩
  · have counted : waiting.dropped = 0 + _ := after_dropped
    rwa [Nat.zero_add] at counted
  · rw [← waits, ← same]
    dsimp only
    split
    next full => simp [push_of_lt full]
    next room => simp [push_of_le (Nat.not_lt.mp room), kept]
  · refine ⟨pieces (waiting.limits.releaseBatch - 1) waiting.packets, rfl, ?_, ?_⟩
    · rw [pieces_flatten, waits]
    · have cut := pieces_isCut (waiting.limits.releaseBatch - 1) waiting.packets
      have size : waiting.limits.releaseBatch - 1 + 1 = max 1 limits.releaseBatch := by
        rw [same]
        omega
      rwa [size] at cut

end Waiting

end Ferry
