import Ferry.Proofs.Frame.BufferLimit

/-!
# Where the packets of a batch lie in its buffer

The packets of a batch share its buffer: each is a slice of it, from one place up to another. Here
the places are worked out as they are worked out while splitting, and every slice is checked. No
check fails, whatever the buffer is. The body of a packet begins after as many bytes as its header
takes when it is written, which are no more than the header was read from; and the packets lie one
behind another, with nothing but their lengths between them.
-/

namespace Ferry

/-- The bytes of a buffer from one place up to another, if these are places of it in this order. -/
def Bytes.slice? (buffer : Bytes) (start stop : Nat) : Option Bytes :=
  if start ≤ stop ∧ stop ≤ buffer.length then some ((buffer.take stop).drop start) else none

/-- Where a packet is cut off a buffer. -/
structure Cut where
  /-- Where the length of the packet begins. -/
  opening : Nat
  /-- Where the packet begins. -/
  start : Nat
  /-- Where it ends. -/
  stop : Nat
  header : Header
  /-- How many bytes the header was read from. -/
  consumed : Nat
  deriving DecidableEq, Repr

namespace Cut

/-- Where the body is taken to begin: after as many bytes as the header takes when it is
written. -/
def bodyStart (cut : Cut) : Nat := cut.start + Varint.size cut.header.toNat

/-- The packet, if its body is a slice of the buffer. -/
def packet? (buffer : Bytes) (cut : Cut) : Option BatchPacket :=
  (Bytes.slice? buffer cut.bodyStart cut.stop).map (BatchPacket.received cut.header)

/-- Whether a packet lies in a buffer behind its length, and its header in the packet. -/
structure Fits (cut : Cut) (buffer : Bytes) : Prop where
  opening_lt : cut.opening < cut.start
  written_le : Varint.size cut.header.toNat ≤ cut.consumed
  consumed_le : cut.consumed ≤ cut.stop - cut.start
  start_le : cut.start ≤ cut.stop
  stop_le : cut.stop ≤ buffer.length

variable {cut : Cut} {buffer : Bytes}

/-- The slice of a body is within the buffer. -/
theorem Fits.packet_eq (fits : cut.Fits buffer) : cut.packet? buffer =
    some (BatchPacket.received cut.header ((buffer.take cut.stop).drop cut.bodyStart)) := by
  have begins : cut.bodyStart ≤ cut.stop := by
    have written := fits.written_le
    have consumed := fits.consumed_le
    have ends := fits.start_le
    unfold bodyStart
    omega
  rw [packet?, Bytes.slice?, if_pos ⟨begins, fits.stop_le⟩]
  rfl

/-- Whether packets lie one behind another, from one place of a buffer up to another. -/
def Tile (buffer : Bytes) : (first : Nat) → List Cut → (last : Nat) → Prop
  | first, [], last => first = last
  | first, cut :: cuts, last =>
    cut.opening = first ∧ cut.Fits buffer ∧ Tile buffer cut.stop cuts last

variable {first last : Nat} {cuts : List Cut}

/-- Every cut of a tiling lies within the buffer. -/
theorem Tile.fits (tile : Tile buffer first cuts last) : ∀ cut ∈ cuts, cut.Fits buffer := by
  induction cuts generalizing first with
  | nil => simp
  | cons cut cuts ih =>
    obtain ⟨-, fits, others⟩ := tile
    exact List.forall_mem_cons.mpr ⟨fits, ih others⟩

/-- No cut of a tiling begins before its first place. -/
theorem Tile.first_le (tile : Tile buffer first cuts last) :
    ∀ cut ∈ cuts, first ≤ cut.opening := by
  induction cuts generalizing first with
  | nil => simp
  | cons cut cuts ih =>
    obtain ⟨rfl, fits, others⟩ := tile
    refine List.forall_mem_cons.mpr ⟨Nat.le_refl _, fun next mem => ?_⟩
    have behind := ih others next mem
    have opens := fits.opening_lt
    have ends := fits.start_le
    omega

/-- No two packets overlap, and they keep their order. -/
theorem Tile.pairwise (tile : Tile buffer first cuts last) :
    cuts.Pairwise fun cut next => cut.stop ≤ next.opening := by
  induction cuts generalizing first with
  | nil => exact .nil
  | cons cut cuts ih =>
    obtain ⟨-, -, others⟩ := tile
    exact .cons others.first_le (ih others)

/-- Every place in between lies in a packet or in its length. -/
theorem Tile.covers (tile : Tile buffer first cuts last) {place : Nat} (behind : first ≤ place)
    (before : place < last) : ∃ cut ∈ cuts, cut.opening ≤ place ∧ place < cut.stop := by
  induction cuts generalizing first with
  | nil =>
    obtain rfl : first = last := tile
    omega
  | cons cut cuts ih =>
    obtain ⟨rfl, -, others⟩ := tile
    by_cases within : place < cut.stop
    · exact ⟨cut, List.mem_cons_self, behind, within⟩
    · obtain ⟨next, mem, lies⟩ := ih others (Nat.le_of_not_lt within)
      exact ⟨next, List.mem_cons_of_mem _ mem, lies⟩

end Cut

namespace FrameCodec

/-- Cuts off the packet behind a place of a buffer. -/
def cutAt (buffer : Bytes) (place : Nat) : Except FrameError Cut :=
  match Varint.read32 (buffer.drop place) with
  | .error cause _ => .error (.malformed cause)
  | .ok length rest =>
    if bufferLimit < length.toNat then .error (.tooLarge length.toNat)
    else
      let start := buffer.length - rest.length
      match Reader.take length.toNat rest with
      | .error cause _ => .error (.malformed cause)
      | .ok packet _ =>
        match Header.read packet with
        | .error cause _ => .error (.malformed cause)
        | .ok header unread =>
          .ok ⟨place, start, start + length.toNat, header, packet.length - unread.length⟩

/-- The packets behind a place of a buffer, up to its end or to a fault. A packet takes at least
one byte, so the length of the buffer is enough fuel. -/
def cutFrom (buffer : Bytes) : (fuel place : Nat) → List Cut × Option FrameError
  | 0, _ => ([], none)
  | fuel + 1, place =>
    if buffer.length ≤ place then ([], none)
    else
      match cutAt buffer place with
      | .error fault => ([], some fault)
      | .ok cut =>
        let (cuts, fault) := cutFrom buffer fuel cut.stop
        (cut :: cuts, fault)

/-- The packets that are cut off an uncompressed batch, and the fault that it ends with. -/
def cuts (uncompressed : Bytes) : List Cut × Option FrameError :=
  cutFrom uncompressed uncompressed.length 0

/-- A fault decides, whatever was cut off before it. -/
def unlessFault {α : Type} (value : α) : Option FrameError → Except FrameError α
  | some fault => .error fault
  | none => .ok value

variable {buffer : Bytes} {place : Nat}

/-- What is unread is what stands behind what was read. -/
theorem drop_of_append {taken rest : Bytes} (whole : buffer.drop place = taken ++ rest) :
    rest = buffer.drop (buffer.length - rest.length) := by
  apply List.suffix_iff_eq_drop.mp
  exact List.IsSuffix.trans ⟨taken, whole.symm⟩ (List.drop_suffix place buffer)

/-- A cut that is found begins at its place and lies within the buffer. -/
theorem cutAt_fits {cut : Cut} (found : cutAt buffer place = .ok cut) :
    cut.opening = place ∧ cut.Fits buffer := by
  unfold cutAt at found
  split at found
  · cases found
  next length rest counted =>
    split at found
    · cases found
    next short =>
      dsimp only at found
      split at found
      · cases found
      next packet left cut =>
        split at found
        · cases found
        next header unread headed =>
          cases found
          obtain ⟨front, ⟨isSpelled, -, -⟩, whole⟩ := (Varint.takes_read32 _ _ _).mp counted
          obtain ⟨_, ⟨rfl, long⟩, rfl⟩ := (Reader.takes_take _ _ _).mp cut
          obtain ⟨spelling, ⟨spelled, -, rfl⟩, rfl⟩ := (Header.takes_read _ _ _).mp headed
          have positive : 0 < front.length := by
            rw [List.length_pos_iff]
            rintro rfl
            exact isSpelled
          have sizes := congrArg List.length whole
          have written := Header.size_le_length spelled
          simp only [List.length_drop, List.length_append] at sizes long
          refine ⟨rfl, ?_, ?_, ?_, ?_, ?_⟩
          all_goals simp only [List.length_append]
          all_goals omega

/-- A packet is split off where it is cut off. -/
theorem splitOnto_cutAt {read : List BatchPacket} {fuel : Nat} (within : place < buffer.length) :
    splitOnto read (fuel + 1) (buffer.drop place) =
      match cutAt buffer place with
      | .error fault => .error fault
      | .ok cut => splitOnto (BatchPacket.received cut.header
          ((buffer.take cut.stop).drop cut.bodyStart) :: read) fuel (buffer.drop cut.stop) := by
  have step {input : Bytes} (nonempty : input ≠ []) : splitOnto read (fuel + 1) input =
      match Varint.read32 input with
      | .error cause _ => .error (.malformed cause)
      | .ok length rest =>
        if bufferLimit < length.toNat then .error (.tooLarge length.toNat)
        else
          match Reader.take length.toNat rest with
          | .error cause _ => .error (.malformed cause)
          | .ok packet rest =>
            match Header.read packet with
            | .error cause _ => .error (.malformed cause)
            | .ok header _ =>
              splitOnto (BatchPacket.received header
                (packet.drop (Varint.size header.toNat)) :: read) fuel rest := by
    cases input with
    | nil => exact absurd rfl nonempty
    | cons first others => rfl
  have unread : buffer.drop place ≠ [] := by
    rw [Ne, List.drop_eq_nil_iff]
    omega
  rw [step unread]
  unfold cutAt
  cases counted : Varint.read32 (buffer.drop place) with
  | error cause rest => rfl
  | ok length rest =>
    obtain ⟨prefixed, -, whole⟩ := (Varint.takes_read32 _ _ _).mp counted
    dsimp only
    split
    · rfl
    cases cut : Reader.take length.toNat rest with
    | error cause left => rfl
    | ok packet left =>
      dsimp only
      cases headed : Header.read packet with
      | error cause unread => rfl
      | ok header unread =>
        obtain ⟨bytes, ⟨rfl, long⟩, behind⟩ := (Reader.takes_take _ _ _).mp cut
        -- Splitting keeps what is unread, and cutting only its place.
        have starts := drop_of_append whole
        have front : bytes = rest.take length.toNat := by rw [behind, List.take_left' long]
        have back : left = rest.drop length.toNat := by rw [behind, List.drop_left' long]
        rw [starts] at front back
        dsimp only [Cut.bodyStart]
        rw [front, back, List.take_drop, List.drop_drop, List.drop_drop]

/-- Packets are cut off one behind another, and up to the end of the buffer unless there is a
fault. -/
theorem cutFrom_tile {fuel : Nat} (within : place ≤ buffer.length)
    (enough : buffer.length ≤ place + fuel) :
    ∃ last, Cut.Tile buffer place (cutFrom buffer fuel place).1 last ∧
      ((cutFrom buffer fuel place).2 = none → last = buffer.length) := by
  induction fuel generalizing place with
  | zero => exact ⟨place, rfl, fun _ => Nat.le_antisymm within enough⟩
  | succ fuel ih =>
    rw [cutFrom]
    split
    next done => exact ⟨place, rfl, fun _ => Nat.le_antisymm within done⟩
    next =>
      cases found : cutAt buffer place with
      | error fault => exact ⟨place, rfl, fun failed => by cases failed⟩
      | ok cut =>
        obtain ⟨opens, fits⟩ := cutAt_fits found
        have begins := fits.opening_lt
        have ends := fits.start_le
        obtain ⟨last, others, complete⟩ := ih fits.stop_le (by omega)
        exact ⟨last, ⟨opens, fits, others⟩, complete⟩

/-- Behind the end of the buffer nothing more is split off. -/
theorem splitOnto_of_le {read : List BatchPacket} {fuel : Nat} (ends : buffer.length ≤ place) :
    splitOnto read fuel (buffer.drop place) = .ok (read.reverse ++ []) := by
  rw [List.drop_eq_nil_of_le ends, splitOnto.eq_def, List.append_nil]

/-- What is split off is what is cut off: every slice is within the buffer, and the packets are
made of the slices, unless there is a fault behind them. -/
theorem splitOnto_cutFrom {read : List BatchPacket} {fuel : Nat} (within : place ≤ buffer.length)
    (enough : buffer.length ≤ place + fuel) :
    ∃ packets, (cutFrom buffer fuel place).1.mapM (Cut.packet? buffer) = some packets ∧
      splitOnto read fuel (buffer.drop place) =
        unlessFault (read.reverse ++ packets) (cutFrom buffer fuel place).2 := by
  induction fuel generalizing place read with
  | zero => exact ⟨[], rfl, splitOnto_of_le enough⟩
  | succ fuel ih =>
    rw [cutFrom]
    split
    next ends => exact ⟨[], rfl, splitOnto_of_le ends⟩
    next goesOn =>
      rw [splitOnto_cutAt (Nat.lt_of_not_le goesOn)]
      cases found : cutAt buffer place with
      | error fault => exact ⟨[], rfl, rfl⟩
      | ok cut =>
        obtain ⟨opens, fits⟩ := cutAt_fits found
        have begins := fits.opening_lt
        have ends := fits.start_le
        let packet :=
          BatchPacket.received cut.header ((buffer.take cut.stop).drop cut.bodyStart)
        obtain ⟨packets, sliced, parted⟩ :=
          @ih cut.stop (packet :: read) fits.stop_le (by omega)
        refine ⟨packet :: packets, ?_, ?_⟩
        · simp [fits.packet_eq, sliced, packet]
        · rw [List.reverse_cons, List.append_assoc] at parted
          exact parted

/-- The uncompressed batch in a frame. -/
def uncompressed (codec : FrameCodec) (frame : Bytes) : Except FrameError Bytes := do
  let (algorithm, compressed) ← codec.contents frame
  expand algorithm compressed

/-- The packets of a frame are those that its uncompressed batch is split into. -/
theorem packets_of_decode (codec : FrameCodec) (frame : Bytes) :
    (codec.decode frame).1.map Batch.packets = codec.uncompressed frame >>= split := by
  rw [decode_eq, uncompressed]
  simp only [bind, Except.bind]
  cases codec.contents frame with
  | error fault => rfl
  | ok tagged =>
    dsimp only
    cases expand tagged.1 tagged.2 with
    | error fault => rfl
    | ok buffer =>
      dsimp only
      cases split buffer with
      | error fault => rfl
      | ok packets => rfl

/-- Splitting takes no slice that is not within the buffer, whatever the frame is and whatever the
codec has come to. A frame without an uncompressed batch is refused before. Of every other, each
packet lies in the buffer behind its length; the header takes no more bytes when it is written than
it was read from, which all lie in the packet; the packets do not overlap and keep their order; and
unless there is a fault, they and their lengths are the whole buffer. -/
theorem decode_cuts (codec : FrameCodec) (frame : Bytes) :
    (∀ fault, codec.uncompressed frame = .error fault → (codec.decode frame).1 = .error fault) ∧
    ∀ buffer, codec.uncompressed frame = .ok buffer → ∃ packets,
      (cuts buffer).1.mapM (Cut.packet? buffer) = some packets ∧
      (codec.decode frame).1.map Batch.packets = unlessFault packets (cuts buffer).2 ∧
      (∀ cut ∈ (cuts buffer).1, cut.Fits buffer) ∧
      ((cuts buffer).1.Pairwise fun cut next => cut.stop ≤ next.opening) ∧
      ((cuts buffer).2 = none → ∀ place < buffer.length,
        ∃ cut ∈ (cuts buffer).1, cut.opening ≤ place ∧ place < cut.stop) := by
  have same := packets_of_decode codec frame
  constructor
  · intro fault refused
    rw [refused] at same
    cases decoded : (codec.decode frame).1 with
    | error other =>
      rw [decoded] at same
      cases same
      rfl
    | ok batch =>
      rw [decoded] at same
      cases same
  · intro buffer holds
    have enough : buffer.length ≤ 0 + buffer.length := Nat.le_of_eq (Nat.zero_add _).symm
    obtain ⟨packets, sliced, parted⟩ :=
      @splitOnto_cutFrom buffer 0 [] buffer.length (Nat.zero_le _) enough
    obtain ⟨last, tile, complete⟩ := cutFrom_tile (Nat.zero_le _) enough
    refine ⟨packets, sliced, ?_, tile.fits, tile.pairwise, fun whole place within => ?_⟩
    · rw [same, holds]
      exact parted
    · exact tile.covers (Nat.zero_le place) (complete whole ▸ within)

/-- The headers of this frame are spelled in more bytes than they take when they are written. -/
theorem decode_cuts_overlong : ∃ packets,
    (cuts (overlongSlices.flatMap Slice.bytes)).1.mapM
        (Cut.packet? (overlongSlices.flatMap Slice.bytes)) = some packets ∧
      ((ofVersion .v712).decode overlongFrame).1.map Batch.packets = .ok packets ∧
      (cuts (overlongSlices.flatMap Slice.bytes)).1 =
        [⟨0, 1, 4, Header.ofId 3, 2⟩, ⟨4, 5, 9, Header.ofId 3, 3⟩] := by
  obtain ⟨packets, sliced, decoded, -⟩ :=
    (decode_cuts (ofVersion .v712) overlongFrame).2 (overlongSlices.flatMap Slice.bytes) rfl
  exact ⟨packets, sliced, decoded, rfl⟩

end FrameCodec

end Ferry
