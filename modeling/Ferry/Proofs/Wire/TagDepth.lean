import Ferry.Proofs.Wire.TagGrammar
import Mathlib.Logic.Function.Iterate

/-!
# How deep tags nest, and how they are walked

The grammar of tags once more, with the depth at which each payload lies: that of the root at 0,
and each element of a list and each child of a compound one deeper than what it is in. Nothing
lies deeper than `Tag.maxDepth`. The reader takes exactly the tags of this grammar.

Beside it stands a walk that keeps the payloads it has begun on a stack of its own and takes one
step after another, without a bound on either. It comes to what the reader comes to, on every
input: after at most three steps a byte, and with no more payloads begun at a time than may
contain one another.
-/

namespace Ferry

namespace Reader

variable {α : Type} {reader : Reader α} {form : Bytes → α → Prop} {input rest : Bytes} {value : α}

/-- No more is left unread than there was. -/
theorem Takes.length_le (takes : reader.Takes form) (read : reader input = .ok value rest) :
    rest.length ≤ input.length := by
  obtain ⟨taken, -, rfl⟩ := (takes _ _ _).mp read
  simp

/-- Less is left unread where nothing is spelled without a byte. -/
theorem Takes.length_lt (takes : reader.Takes form) (nonempty : ∀ value, ¬form [] value)
    (read : reader input = .ok value rest) : rest.length < input.length := by
  obtain ⟨taken, written, rfl⟩ := (takes _ _ _).mp read
  have long : 0 < taken.length := by
    rw [List.length_pos_iff]
    rintro rfl
    exact nonempty value written
  rw [List.length_append]
  omega

end Reader

namespace Tag

/-! ## The grammar -/

/-- The type byte of a kind of payload. -/
def Kind.type : Kind → UInt8
  | .byte => 1
  | .short => 2
  | .int => 3
  | .long => 4
  | .float => 5
  | .double => 6
  | .byteArray => 7
  | .text => 8
  | .list => 9
  | .compound => 10
  | .intArray => 11
  | .longArray => 12

/-- Whether a byte string is a payload of a type, and one in which no others lie. -/
inductive IsFlat : (type : UInt8) → Bytes → Prop
  | byte {bytes : Bytes} (size : bytes.length = 1) : IsFlat 1 bytes
  | short {bytes : Bytes} (size : bytes.length = 2) : IsFlat 2 bytes
  | int {bytes : Bytes} (signed : IsSigned Varint.maxBytes32 bytes) : IsFlat 3 bytes
  | long {bytes : Bytes} (signed : IsSigned Varint.maxBytes64 bytes) : IsFlat 4 bytes
  | float {bytes : Bytes} (size : bytes.length = 4) : IsFlat 5 bytes
  | double {bytes : Bytes} (size : bytes.length = 8) : IsFlat 6 bytes
  | byteArray {spelled content : Bytes} (counted : IsLength spelled content.length) :
      IsFlat 7 (spelled ++ content)
  | text {bytes : Bytes} (text : IsText bytes) : IsFlat 8 bytes
  | intArray {bytes : Bytes} (row : IsRow (IsSigned Varint.maxBytes32) bytes) : IsFlat 11 bytes
  | longArray {bytes : Bytes} (row : IsRow (IsSigned Varint.maxBytes64) bytes) : IsFlat 12 bytes

/-- A type, a name and a payload, as they are spelled. -/
structure Named where
  type : UInt8
  name : Bytes
  content : Bytes

/-- The bytes of a named payload. -/
def Named.bytes (named : Named) : Bytes := named.type :: named.name ++ named.content

/-- Whether a byte string is a payload of a type that lies at some depth below the root. -/
inductive IsNested : (depth : Nat) → (type : UInt8) → Bytes → Prop
  | flat {depth : Nat} {type : UInt8} {bytes : Bytes} (within : depth ≤ maxDepth)
      (flat : IsFlat type bytes) : IsNested depth type bytes
  | list {depth : Nat} {element : UInt8} {spelled : Bytes} {elements : List Bytes}
      (within : depth ≤ maxDepth) (counted : IsLength spelled elements.length)
      (nested : ∀ piece ∈ elements, IsNested (depth + 1) element piece) :
      IsNested depth 9 (element :: spelled ++ elements.flatten)
  | compound {depth : Nat} {children : List Named} (within : depth ≤ maxDepth)
      (names : ∀ child ∈ children, IsText child.name)
      (nested : ∀ child ∈ children, IsNested (depth + 1) child.type child.content) :
      IsNested depth 10 (children.flatMap Named.bytes ++ [endType])

/-- Whether a byte string is one tag: an end alone, or a named payload. -/
inductive IsWhole : Bytes → Prop
  | ending : IsWhole [endType]
  | named {root : Named} (name : IsText root.name) (payload : IsNested 0 root.type root.content) :
      IsWhole root.bytes

/-- A type byte announces the kind whose type it is. -/
theorem type_of_ofType {type : UInt8} {kind : Kind} (known : Kind.ofType? type = some kind) :
    type = kind.type := by
  have found {table : List (UInt8 × Kind)} (all : ∀ entry ∈ table, entry.1 = entry.2.type)
      (known : table.lookup type = some kind) : type = kind.type := by
    obtain ⟨early, late, rfl, -⟩ := List.lookup_eq_some_iff.mp known
    exact all (type, kind) (List.mem_append_right early List.mem_cons_self)
  exact found (by decide) known

/-- No payload has the type of an end. -/
theorem IsPayload.type_ne {levels : Nat} {type : UInt8} {bytes : Bytes}
    (payload : IsPayload levels type bytes) : type ≠ endType := by
  rintro rfl
  cases levels with
  | zero => exact payload
  | succ levels => exact payload

/-- Children are found again as types, names and payloads. -/
theorem exists_named {isPayload : UInt8 → Bytes → Prop} {children : List Bytes}
    (all : ∀ child ∈ children, IsNamed isPayload child) :
    ∃ parts : List Named, children = parts.map Named.bytes ∧
      ∀ part ∈ parts, IsText part.name ∧ isPayload part.type part.content := by
  induction children with
  | nil => exact ⟨[], rfl, by simp⟩
  | cons child children ih =>
    obtain ⟨⟨type, name, content, -, text, payload, rfl⟩, others⟩ := List.forall_mem_cons.mp all
    obtain ⟨parts, rfl, holds⟩ := ih others
    exact ⟨⟨type, name, content⟩ :: parts, rfl, List.forall_mem_cons.mpr ⟨⟨text, payload⟩, holds⟩⟩

/-- A payload lies at some depth exactly where it is one that nests no deeper than what is left of
the depths. -/
theorem isNested_iff {levels depth : Nat} {type : UInt8} {bytes : Bytes}
    (left : depth + levels = maxDepth + 1) :
    IsNested depth type bytes ↔ IsPayload levels type bytes := by
  -- What lies in a payload is one deeper on the one side and has one depth less left on the other.
  induction levels generalizing depth type bytes with
  | zero =>
    refine iff_of_false (fun nested => ?_) id
    cases nested with
    | flat within | list within | compound within => omega
  | succ levels ih =>
    have next : depth + 1 + levels = maxDepth + 1 := by omega
    have within : depth ≤ maxDepth := by omega
    constructor
    · intro nested
      cases nested with
      | flat _ flat =>
        cases flat with
        | byte size | short size | float size | double size => exact size
        | int signed | long signed => exact signed
        | byteArray counted => exact ⟨_, _, counted, rfl⟩
        | text text => exact text
        | intArray row | longArray row => exact row
      | list _ counted nested =>
        exact ⟨_, _, ⟨_, _, counted, fun piece mem => (ih next).mp (nested piece mem), rfl⟩, rfl⟩
      | @compound _ children _ names nested =>
        refine ⟨children.map Named.bytes, ?_, by rw [List.flatMap_def]⟩
        intro bytes mem
        obtain ⟨child, among, rfl⟩ := List.mem_map.mp mem
        have holds := (ih next).mp (nested child among)
        exact ⟨child.type, child.name, child.content, holds.type_ne, names child among, holds, rfl⟩
    · intro payload
      unfold IsPayload at payload
      cases known : Kind.ofType? type with
      | none => simp [known] at payload
      | some kind =>
        obtain rfl := type_of_ofType known
        rw [known] at payload
        cases kind with
        | byte => exact .flat within (.byte payload)
        | short => exact .flat within (.short payload)
        | int => exact .flat within (.int payload)
        | long => exact .flat within (.long payload)
        | float => exact .flat within (.float payload)
        | double => exact .flat within (.double payload)
        | byteArray =>
          obtain ⟨spelled, content, counted, rfl⟩ := payload
          exact .flat within (.byteArray counted)
        | text => exact .flat within (.text payload)
        | list =>
          obtain ⟨element, _, ⟨spelled, elements, counted, all, rfl⟩, rfl⟩ := payload
          exact .list within counted fun piece mem => (ih next).mpr (all piece mem)
        | compound =>
          obtain ⟨_, all, rfl⟩ := payload
          obtain ⟨children, rfl, holds⟩ := exists_named all
          rw [← List.flatMap_def]
          exact .compound within (fun child mem => (holds child mem).1)
            fun child mem => (ih next).mpr (holds child mem).2
        | intArray => exact .flat within (.intArray payload)
        | longArray => exact .flat within (.longArray payload)

/-- The tags that are read are those in which nothing lies too deep. -/
theorem isWhole_iff {bytes : Bytes} : IsWhole bytes ↔ IsTag bytes := by
  have root (type : UInt8) (content : Bytes) :
      IsNested 0 type content ↔ IsPayload (maxDepth + 1) type content :=
    isNested_iff (Nat.zero_add _)
  constructor
  · intro whole
    cases whole with
    | ending => exact .inl rfl
    | named name payload =>
      have holds := (root _ _).mp payload
      exact .inr ⟨_, _, _, holds.type_ne, name, holds, rfl⟩
  · rintro (rfl | ⟨type, name, content, -, text, holds, rfl⟩)
    · exact .ending
    · exact @IsWhole.named ⟨type, name, content⟩ text ((root _ _).mpr holds)

/-! ## The walk -/

/-- What is still to be read of a payload that has been begun. -/
inductive Begun
  /-- So many more elements of a list. -/
  | elements (type : UInt8) (count : Nat)
  /-- The children of a compound, up to its end. -/
  | children
  /-- So many more numbers of 32 bits. -/
  | ints (count : Nat)
  /-- So many more numbers of 64 bits. -/
  | longs (count : Nat)
  deriving DecidableEq, Repr

/-- Reads the first part of a payload. Of one that is not read at once, the rest is put on top of
the payloads that have been begun. These are the ones that it lies in, so they are as many as it
lies deep. -/
def enter (begun : List Begun) (type : UInt8) : Reader (List Begun) :=
  if maxDepth < begun.length then throw .tagNestingTooDeep
  else
    match Kind.ofType? type with
    | some .byte => do
      let _ ← Reader.take 1
      pure begun
    | some .short => do
      let _ ← Reader.take 2
      pure begun
    | some .int => do
      let _ ← Varint.readSigned32
      pure begun
    | some .long => do
      let _ ← Varint.readSigned64
      pure begun
    | some .float => do
      let _ ← Reader.take 4
      pure begun
    | some .double => do
      let _ ← Reader.take 8
      pure begun
    | some .byteArray => do
      let count ← length
      let _ ← Reader.take count
      pure begun
    | some .text => do
      let _ ← Layout.text.read
      pure begun
    | some .list => do
      let element ← Reader.byte
      let count ← length
      pure (.elements element count :: begun)
    | some .compound => pure (.children :: begun)
    | some .intArray => do
      let count ← length
      pure (.ints count :: begun)
    | some .longArray => do
      let count ← length
      pure (.longs count :: begun)
    | none => throw (.unknownTagType type)

/-- Goes on with the payload that was begun last. -/
def proceed : Begun → List Begun → Reader (List Begun)
  | .elements _ 0, begun => pure begun
  | .elements type (count + 1), begun => enter (.elements type count :: begun) type
  | .children, begun => do
    let type ← Reader.byte
    if type = endType then pure begun
    else do
      let _ ← Layout.text.read
      enter (.children :: begun) type
  | .ints 0, begun => pure begun
  | .ints (count + 1), begun => do
    let _ ← Varint.readSigned32
    pure (.ints count :: begun)
  | .longs 0, begun => pure begun
  | .longs (count + 1), begun => do
    let _ ← Varint.readSigned64
    pure (.longs count :: begun)

/-- How far a walk has come. -/
inductive Walk
  /-- Some payloads have been begun, the last of them first, and some bytes are unread. -/
  | walking (begun : List Begun) (unread : Bytes)
  /-- There is nothing left to do. -/
  | ended (result : EStateM.Result DecodeError Bytes Unit)

namespace Walk

/-- How far a walk has come that has read something. -/
def ofResult : EStateM.Result DecodeError Bytes (List Begun) → Walk
  | .ok begun unread => walking begun unread
  | .error fault unread => ended (.error fault unread)

/-- The first bytes of a tag: its type and its name. -/
def start (input : Bytes) : Walk :=
  ofResult ((do
    let type ← Reader.byte
    if type = endType then pure []
    else do
      let _ ← Layout.text.read
      enter [] type : Reader (List Begun)) input)

/-- One step. -/
def step : Walk → Walk
  | walking [] unread => ended (.ok () unread)
  | walking (last :: begun) unread => ofResult (proceed last begun unread)
  | ended result => ended result

/-- How many payloads have been begun and not been read to their end. -/
def depth : Walk → Nat
  | walking begun _ => begun.length
  | ended _ => 0

/-- How far a walk has come once a payload is read, in those that it lies in. -/
def leaving (begun : List Begun) : EStateM.Result DecodeError Bytes Unit → Walk
  | .ok _ unread => walking begun unread
  | .error fault unread => ended (.error fault unread)

/-- Whether a walk comes to another in some number of steps. -/
def Leads (walk other : Walk) : Prop := ∃ steps, step^[steps] walk = other

variable {walk other last : Walk} {begun : List Begun} {α : Type}

/-- A walk leads to itself. -/
theorem Leads.refl (walk : Walk) : Leads walk walk := ⟨0, rfl⟩

/-- What a walk leads to leads on. -/
theorem Leads.trans (first : Leads walk other) (second : Leads other last) : Leads walk last := by
  obtain ⟨count, rfl⟩ := first
  obtain ⟨more, rfl⟩ := second
  exact ⟨more + count, Function.iterate_add_apply step more count walk⟩

/-- A walk leads to what its next step leads to. -/
theorem Leads.step (next : Leads walk.step other) : Leads walk other := by
  obtain ⟨count, rfl⟩ := next
  exact ⟨count + 1, rfl⟩

/-! ### What a walk comes to -/

/-- What is read first is read alike, and what follows decides. -/
theorem leads_bind {reader : Reader α} {enters : α → Reader (List Begun)}
    {reads : α → Reader Unit}
    (leads : ∀ value unread,
      Leads (ofResult (enters value unread)) (leaving begun (reads value unread)))
    (input : Bytes) :
    Leads (ofResult ((reader >>= enters) input)) (leaving begun ((reader >>= reads) input)) := by
  change Leads (ofResult (EStateM.bind reader enters input))
    (leaving begun (EStateM.bind reader reads input))
  unfold EStateM.bind
  cases reader input with
  | ok value unread => exact leads value unread
  | error fault unread => exact .refl _

/-- A payload that is read at once leaves those begun that it lies in. -/
theorem leads_discard {reader : Reader α} (input : Bytes) :
    Leads (ofResult ((do let _ ← reader; pure begun) input))
      (leaving begun ((discard reader) input)) := by
  have forgets : (discard reader : Reader Unit) = reader >>= fun _ => pure () := by
    funext unread
    change EStateM.map _ reader unread = EStateM.bind reader _ unread
    unfold EStateM.map EStateM.bind
    cases reader unread <;> rfl
  rw [forgets]
  exact leads_bind (fun _ _ => .refl _) input

/-- A row is read to its end where each step of it reads the next of its values. -/
theorem leads_row {element : Reader Unit} (row : Nat → Begun)
    (ends : ∀ unread, step (walking (row 0 :: begun) unread) = walking begun unread)
    (goes : ∀ count unread, Leads (step (walking (row (count + 1) :: begun) unread))
      (leaving (row count :: begun) (element unread))) (count : Nat) (input : Bytes) :
    Leads (walking (row count :: begun) input)
      (leaving begun (Reader.skipMany count element input)) := by
  induction count generalizing input with
  | zero => exact Leads.step (ends input ▸ .refl _)
  | succ count ih =>
    refine Leads.step ((goes count input).trans ?_)
    change Leads _ (leaving begun (EStateM.bind element _ input))
    unfold EStateM.bind
    cases element input with
    | ok done unread => exact ih unread
    | error fault unread => exact .refl _

/-- Children are read up to the end of their compound. -/
theorem leads_children {read : UInt8 → Reader Unit} {fuel : Nat} {input : Bytes}
    (shrinks : ∀ type input done rest, read type input = .ok done rest →
      rest.length ≤ input.length)
    (goes : ∀ type unread, Leads (ofResult (enter (.children :: begun) type unread))
      (leaving (.children :: begun) (read type unread)))
    (enough : input.length < fuel) :
    Leads (walking (.children :: begun) input) (leaving begun (children read fuel input)) := by
  induction fuel generalizing input with
  | zero => omega
  | succ fuel ih =>
    refine Leads.step ?_
    cases input with
    | nil => exact .refl _
    | cons type more =>
      rw [List.length_cons] at enough
      by_cases ends : type = endType
      · subst ends
        exact .refl _
      · have child : proceed .children begun (type :: more) =
            (Layout.text.read >>= fun _ => enter (.children :: begun) type) more := by
          simp [proceed, bind, EStateM.bind, Reader.byte, ends]
        have row : children read (fuel + 1) (type :: more) =
            (Layout.text.read >>= fun _ => read type >>= fun _ => children read fuel) more := by
          simp [children, bind, EStateM.bind, Reader.byte, ends]
        change Leads (ofResult (proceed .children begun (type :: more))) _
        rw [child, row]
        simp only [bind, EStateM.bind]
        cases named : Layout.text.read more with
        | error fault unread => exact .refl _
        | ok name unread =>
          refine (goes type unread).trans ?_
          have shorter := Layout.takes_text.length_le named
          dsimp only
          cases ran : read type unread with
          | error fault left => exact .refl _
          | ok done left =>
            have fewer := shrinks type _ _ _ ran
            exact ih (by omega)

/-- A payload is read to its end. -/
theorem leads_payload {levels : Nat} {type : UInt8} (input : Bytes)
    (left : begun.length + levels = maxDepth + 1) :
    Leads (ofResult (enter begun type input)) (leaving begun (payload levels type input)) := by
  -- The reader counts the depths that are left, the walk those that are taken up.
  induction levels generalizing begun type input with
  | zero =>
    have deep : maxDepth < begun.length := by omega
    unfold enter
    rw [if_pos deep]
    exact .refl _
  | succ levels ih =>
    have room : ¬maxDepth < begun.length := by omega
    have next (last : Begun) : (last :: begun).length + levels = maxDepth + 1 := by
      rw [List.length_cons]
      omega
    unfold enter payload
    rw [if_neg room]
    cases Kind.ofType? type with
    | none => exact .refl _
    | some kind =>
      cases kind with
      | byte | short | int | long | float | double | text => exact leads_discard input
      | byteArray => exact leads_bind (fun count unread => leads_discard unread) input
      | list =>
        refine leads_bind (fun element unread => ?_) input
        refine leads_bind (fun count unread => ?_) unread
        exact leads_row (.elements element) (fun _ => rfl) (fun _ unread => ih unread (next _))
          count unread
      | compound =>
        exact leads_children (fun type _ _ _ read => (takes_payload levels type).length_le read)
          (fun type unread => ih unread (next _)) (Nat.lt_succ_self _)
      | intArray =>
        refine leads_bind (fun count unread => ?_) input
        exact leads_row .ints (fun _ => rfl) (fun _ unread => leads_discard unread) count unread
      | longArray =>
        refine leads_bind (fun count unread => ?_) input
        exact leads_row .longs (fun _ => rfl) (fun _ unread => leads_discard unread) count unread

/-! ### How long a walk takes, and how deep it goes -/

/-- What the payloads that have been begun may still cost: a step each, and more where the last of
them may begin a compound, which takes no byte to begin. -/
def cost : List Begun → Nat
  | [] => 0
  | .children :: begun => begun.length + 1
  | _ :: begun => begun.length + 3

/-- What a walk may still cost. -/
def potential : Walk → Nat
  | walking begun unread => 3 * unread.length + cost begun + 1
  | ended _ => 0

/-- Whether a walk is not too deep and costs no more than a bound. -/
structure Within (bound : Nat) (walk : Walk) : Prop where
  depth : walk.depth ≤ maxDepth + 1
  potential : walk.potential ≤ bound

variable {bound wider : Nat} {input : Bytes} {form : Bytes → α → Prop}

/-- A walk within a bound is within a wider one. -/
theorem Within.mono (within : Within bound walk) (le : bound ≤ wider) : Within wider walk :=
  ⟨within.depth, Nat.le_trans within.potential le⟩

/-- What is begun costs at most two more than its depth. -/
theorem cost_le : cost begun ≤ begun.length + 2 := by
  unfold cost
  split <;> simp

/-- A walk that has ended is within every bound. -/
theorem within_ended {result : EStateM.Result DecodeError Bytes Unit} :
    Within bound (ended result) :=
  ⟨Nat.zero_le _, Nat.zero_le _⟩

/-- A fault costs nothing, so only what is read counts. -/
theorem within_bind {reader : Reader α} {next : α → Reader (List Begun)}
    (reads : ∀ value rest, reader input = .ok value rest →
      Within bound (ofResult (next value rest))) :
    Within bound (ofResult ((reader >>= next) input)) := by
  change Within bound (ofResult (EStateM.bind reader next input))
  unfold EStateM.bind
  cases read : reader input with
  | ok value rest => exact reads value rest read
  | error fault rest => exact within_ended

/-- What is read at once takes at least a byte, which is worth a step. -/
theorem within_spent {reader : Reader α} (takes : reader.Takes form)
    (nonempty : ∀ value, ¬form [] value) (room : begun.length ≤ maxDepth + 1) :
    Within (3 * input.length + cost begun)
      (ofResult ((do let _ ← reader; pure begun) input)) := by
  refine within_bind fun value rest read => ⟨room, ?_⟩
  have fewer := takes.length_lt nonempty read
  change 3 * rest.length + cost begun + 1 ≤ _
  omega

/-- No length is written without a byte. -/
theorem length_ne_nil (count : Nat) : ¬IsLength [] count := fun counted => counted.1.1

/-- The length of a row takes at least a byte. -/
theorem within_row (row : Nat → Begun) (room : begun.length ≤ maxDepth)
    (costs : ∀ count, cost (row count :: begun) = begun.length + 3) :
    Within (3 * input.length + begun.length + 2)
      (ofResult ((do let count ← length; pure (row count :: begun)) input)) := by
  refine within_bind fun count rest read => ⟨Nat.succ_le_succ room, ?_⟩
  have fewer := takes_length.length_lt length_ne_nil read
  change 3 * rest.length + cost (row count :: begun) + 1 ≤ _
  rw [costs]
  omega

/-- No text is written without a byte. -/
theorem text_ne_nil (text : String) : ¬SpellsText [] text := by
  rintro ⟨spelled, isSpelled, -, -, -, whole⟩
  obtain ⟨rfl, -⟩ := List.append_eq_nil_iff.mp whole.symm
  exact isSpelled

/-- No payload that is begun is too deep, and beginning it costs what its bytes are worth. -/
theorem within_enter (type : UInt8) (begun : List Begun) (input : Bytes) :
    Within (3 * input.length + begun.length + 2) (ofResult (enter begun type input)) := by
  unfold enter
  by_cases deep : maxDepth < begun.length
  · rw [if_pos deep]
    exact within_ended
  rw [if_neg deep]
  have room := Nat.le_of_not_lt deep
  have above : begun.length ≤ maxDepth + 1 := Nat.le_succ_of_le room
  have few : cost begun ≤ begun.length + 2 := cost_le
  have dearer : 3 * input.length + cost begun ≤ 3 * input.length + begun.length + 2 := by omega
  have fixed {count : Nat} (pos : 0 < count) (value : Bytes) :
      ¬(([] : Bytes) = value ∧ value.length = count) := by
    rintro ⟨rfl, rfl⟩
    exact absurd pos (Nat.lt_irrefl 0)
  cases Kind.ofType? type with
  | none => exact within_ended
  | some kind =>
    cases kind with
    | byte | short | float | double =>
      exact (within_spent Reader.takes_take (fixed (by decide)) above).mono dearer
    | int =>
      exact (within_spent Varint.takes_readSigned32 (fun _ written => written.1) above).mono dearer
    | long =>
      exact (within_spent Varint.takes_readSigned64 (fun _ written => written.1) above).mono dearer
    | text => exact (within_spent Layout.takes_text text_ne_nil above).mono dearer
    | byteArray =>
      refine within_bind fun count rest counted => within_bind fun content left read => ?_
      have fewer := takes_length.length_lt length_ne_nil counted
      have no_more := Reader.takes_take.length_le read
      refine ⟨above, ?_⟩
      change 3 * left.length + cost begun + 1 ≤ _
      omega
    | list =>
      refine within_bind fun element rest read => ?_
      have fewer := Reader.takes_byte.length_le read
      exact (within_row (.elements element) room fun _ => rfl).mono (by omega)
    | compound => exact ⟨Nat.succ_le_succ room, Nat.le_refl _⟩
    | intArray => exact within_row .ints room fun _ => rfl
    | longArray => exact within_row .longs room fun _ => rfl

/-- A step costs something as long as there is something to do, and goes no deeper than it may. -/
theorem within_step (walk : Walk) (within : walk.depth ≤ maxDepth + 1) :
    Within (walk.potential - 1) walk.step := by
  cases walk with
  | ended result => exact within_ended
  | walking begun unread =>
    cases begun with
    | nil => exact within_ended
    | cons last begun =>
      have room : begun.length ≤ maxDepth := Nat.le_of_succ_le_succ within
      have few : cost begun ≤ begun.length + 2 := cost_le
      change Within (3 * unread.length + cost (last :: begun))
        (ofResult (proceed last begun unread))
      have left : Within (3 * unread.length + (begun.length + 3)) (walking begun unread) :=
        ⟨Nat.le_succ_of_le room, by
          change 3 * unread.length + cost begun + 1 ≤ _
          omega⟩
      cases last with
      | elements type count =>
        cases count with
        | zero => exact left
        | succ count => exact within_enter type (.elements type count :: begun) unread
      | children =>
        refine within_bind fun type rest read => ?_
        have fewer := Reader.takes_byte.length_lt (fun _ written => by cases written) read
        have cheap : cost (.children :: begun) = begun.length + 1 := rfl
        split
        · refine ⟨Nat.le_succ_of_le room, ?_⟩
          change 3 * rest.length + cost begun + 1 ≤ _
          omega
        · refine within_bind fun name unread named => ?_
          have less := Layout.takes_text.length_lt text_ne_nil named
          refine (within_enter type (.children :: begun) unread).mono ?_
          rw [List.length_cons]
          omega
      | ints count =>
        cases count with
        | zero => exact left
        | succ count =>
          have above : (Begun.ints count :: begun).length ≤ maxDepth + 1 := within
          exact within_spent Varint.takes_readSigned32 (fun _ written => written.1) above
      | longs count =>
        cases count with
        | zero => exact left
        | succ count =>
          have above : (Begun.longs count :: begun).length ≤ maxDepth + 1 := within
          exact within_spent Varint.takes_readSigned64 (fun _ written => written.1) above

/-- The type and the name of a root cost no more than their bytes are worth. -/
theorem within_start (input : Bytes) : Within (3 * input.length) (start input) := by
  refine within_bind fun type rest read => ?_
  have fewer := Reader.takes_byte.length_lt (fun _ written => by cases written) read
  split
  · refine ⟨Nat.zero_le _, ?_⟩
    change 3 * rest.length + 0 + 1 ≤ _
    omega
  · refine within_bind fun name unread named => ?_
    have no_more := Layout.takes_text.length_le named
    refine (within_enter type [] unread).mono ?_
    rw [List.length_nil]
    omega

/-- Every step of a walk costs at least one, and none goes too deep. -/
theorem within_iterate {walk : Walk} (within : Within bound walk) (steps : Nat) :
    Within (bound - steps) (step^[steps] walk) := by
  induction steps with
  | zero => exact within
  | succ steps ih =>
    rw [Function.iterate_succ_apply']
    exact (within_step _ ih.depth).mono (Nat.sub_le_sub_right ih.potential 1)

/-- A walk that costs nothing more has ended. -/
theorem ended_of_potential {walk : Walk} (spent : walk.potential = 0) :
    ∃ result, walk = ended result := by
  cases walk with
  | walking begun unread => exact absurd spent (Nat.succ_ne_zero _)
  | ended result => exact ⟨result, rfl⟩

/-- A walk that has ended stays where it is. -/
theorem iterate_ended (result : EStateM.Result DecodeError Bytes Unit) (steps : Nat) :
    step^[steps] (ended result) = ended result :=
  Function.iterate_fixed rfl steps

/-- A walk that comes to an end has come to it as soon as it may cost no more. -/
theorem iterate_of_leads {walk : Walk} {result : EStateM.Result DecodeError Bytes Unit}
    (within : Within bound walk) (leads : Leads walk (ended result)) :
    step^[bound] walk = ended result := by
  obtain ⟨steps, comes⟩ := leads
  have spent : (step^[bound] walk).potential = 0 := by
    have costs := (within_iterate within bound).potential
    omega
  obtain ⟨last, stops⟩ := ended_of_potential spent
  -- What has ended stays as it is, so both ends are the same after the steps of both.
  have forth : step^[steps + bound] walk = ended last := by
    rw [Function.iterate_add_apply, stops, iterate_ended]
  have back : step^[bound + steps] walk = ended result := by
    rw [Function.iterate_add_apply, comes, iterate_ended]
  rw [Nat.add_comm, forth] at back
  rw [stops, back]

/-- A walk comes to what the reader comes to. -/
theorem start_leads (input : Bytes) : Leads (start input) (ended (skip input)) := by
  have emptied (result : EStateM.Result DecodeError Bytes Unit) :
      Leads (leaving [] result) (ended result) := by
    cases result with
    | ok done unread => exact ⟨1, rfl⟩
    | error fault unread => exact .refl _
  refine Leads.trans (leads_bind (fun type unread => ?_) input) (emptied _)
  by_cases ends : type = endType
  · rw [if_pos ends, if_pos ends]
    exact .refl _
  · rw [if_neg ends, if_neg ends]
    exact leads_bind (fun _ rest => leads_payload rest (Nat.zero_add _)) unread

end Walk

/-- A tag is read exactly where the input starts with one of the grammar, and then it is that one
that is read and nothing behind it. The reader comes to what a walk comes to that takes at most
three steps a byte, whatever the input is, and that never has more payloads begun at a time than
may lie in one another. -/
theorem read_recognizes (input : Bytes) :
    (∀ raw rest, layout.read input = .ok raw rest ↔ input = raw ++ rest ∧ IsWhole raw) ∧
      Walk.step^[3 * input.length] (Walk.start input) = .ended (skip input) ∧
        ∀ steps, (Walk.step^[steps] (Walk.start input)).depth ≤ maxDepth + 1 := by
  refine ⟨fun raw rest => ?_, ?_, fun steps => ?_⟩
  · rw [isWhole_iff]
    refine (takes_skip.spanOf input raw rest).trans ?_
    constructor
    · rintro ⟨_, ⟨rfl, -, isTag⟩, rfl⟩
      exact ⟨rfl, isTag⟩
    · rintro ⟨rfl, isTag⟩
      exact ⟨raw, ⟨rfl, (), isTag⟩, rfl⟩
  · exact Walk.iterate_of_leads (Walk.within_start input) (Walk.start_leads input)
  · exact (Walk.within_iterate (Walk.within_start input) steps).depth

end Tag

end Ferry
