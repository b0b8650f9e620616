import Ferry.Bytes

/-!
# Deflate streams

`inflate` reads the format of RFC 1951: blocks that are stored, compressed with the
fixed codes, or compressed with codes of their own. What follows the final block is
ignored. Two liberties are taken with malformed streams. A code of a block may be
incomplete if it has at most one symbol, and a copy that reaches back before the first
byte reads zeros there, as from an empty window.

`deflate` writes stored blocks only, which every reader accepts.
-/

namespace Ferry.Deflate

/-- Why a stream was not read to its end. -/
inductive Fault where
  | corrupt
  /-- The output is longer than permitted. -/
  | tooLong
  deriving DecidableEq, Repr

/-- Unread bits: those left of the byte begun, lowest first, then whole bytes. -/
structure BitInput where
  pending : Nat
  count : Nat
  rest : Bytes

/-- Takes a bit. -/
def BitInput.bit (input : BitInput) : Except Fault (Nat × BitInput) :=
  match input.count, input.rest with
  | 0, [] => .error .corrupt
  | 0, byte :: rest => .ok (byte.toNat % 2, ⟨byte.toNat / 2, 7, rest⟩)
  | count + 1, rest => .ok (input.pending % 2, ⟨input.pending / 2, count, rest⟩)

/-- Takes a number of several bits, lowest first. -/
def BitInput.bits : (width : Nat) → BitInput → Except Fault (Nat × BitInput)
  | 0, input => .ok (0, input)
  | width + 1, input => do
    let (low, input) ← input.bit
    let (high, input) ← BitInput.bits width input
    .ok (low + 2 * high, input)

/-! ## Prefix codes -/

/-- The longest code word. -/
def maxCodeLength : Nat := 15

/-- A prefix code: how many code words there are of each length from 1 on, and the
symbols in the order of their code words. -/
structure Code where
  counts : List Nat
  symbols : Array Nat

/-- How much of the space of code words the lengths take, in units of the longest. -/
def Code.taken (lengths : List Nat) : Nat :=
  lengths.foldl (fun total length =>
    if length = 0 then total else total + 1 <<< (maxCodeLength - length)) 0

/-- The code in which each symbol has a code word of the given length, or none for 0.
Too many code words are refused, and so are too few, unless there is at most one. -/
def Code.ofLengths (lengths : List Nat) : Except Fault Code :=
  let used := lengths.countP (· ≠ 0)
  if taken lengths ≠ 1 <<< maxCodeLength ∧ 1 < used then .error .corrupt
  else
    let places := lengths.zipIdx
    .ok {
      counts := (List.range maxCodeLength).map fun index => lengths.countP (· = index + 1)
      symbols := ((List.range maxCodeLength).flatMap fun index =>
        places.filterMap fun (length, symbol) =>
          if length = index + 1 then some symbol else none).toArray }

/-- Reads a symbol. Among the code words of the current length, `first` is the least
and `index` its place in the symbols; `value` is what has been read, doubled. -/
def decodeFrom (symbols : Array Nat) : (counts : List Nat) → (value first index : Nat) →
    BitInput → Except Fault (Nat × BitInput)
  | [], _, _, _, _ => .error .corrupt
  | count :: counts, value, first, index, input => do
    let (bit, input) ← input.bit
    let value := value + bit
    if value < first + count then .ok (symbols.getD (index + (value - first)) 0, input)
    else decodeFrom symbols counts (2 * value) (2 * (first + count)) (index + count) input

/-- Reads a symbol. -/
def Code.decode (code : Code) (input : BitInput) : Except Fault (Nat × BitInput) :=
  decodeFrom code.symbols code.counts 0 0 0 input

/-! ## Compressed blocks -/

/-- The symbol that ends a block. -/
def endOfBlock : Nat := 256

/-- The least length of each length symbol, and how many extra bits follow it. -/
def lengthTable : Array (Nat × Nat) := #[
  (3, 0), (4, 0), (5, 0), (6, 0), (7, 0), (8, 0), (9, 0), (10, 0), (11, 1), (13, 1), (15, 1),
  (17, 1), (19, 2), (23, 2), (27, 2), (31, 2), (35, 3), (43, 3), (51, 3), (59, 3), (67, 4),
  (83, 4), (99, 4), (115, 4), (131, 5), (163, 5), (195, 5), (227, 5), (258, 0)]

/-- The least distance of each distance symbol, and how many extra bits follow it. -/
def distanceTable : Array (Nat × Nat) := #[
  (1, 0), (2, 0), (3, 0), (4, 0), (5, 1), (7, 1), (9, 2), (13, 2), (17, 3), (25, 3), (33, 4),
  (49, 4), (65, 5), (97, 5), (129, 6), (193, 6), (257, 7), (385, 7), (513, 8), (769, 8),
  (1025, 9), (1537, 9), (2049, 10), (3073, 10), (4097, 11), (6145, 11), (8193, 12),
  (12289, 12), (16385, 13), (24577, 13)]

/-- A number from a table entry and the extra bits after it. -/
def withExtra (table : Array (Nat × Nat)) (symbol : Nat) (input : BitInput) :
    Except Fault (Nat × BitInput) :=
  match table[symbol]? with
  | none => .error .corrupt
  | some (least, width) => do
    let (extra, input) ← input.bits width
    .ok (least + extra, input)

/-- Copies `length` bytes from `distance` back. -/
def copyBack (distance : Nat) : (length : Nat) → ByteArray → ByteArray
  | 0, out => out
  | length + 1, out =>
    let byte := if distance ≤ out.size then out.data.getD (out.size - distance) 0 else 0
    copyBack distance length (out.push byte)

/-- Reads the symbols of a block up to its end. Every symbol takes at least one bit, so
a fuel above the number of unread bits never runs out. -/
def symbols (limit : Nat) (literals distances : Code) :
    (fuel : Nat) → BitInput → ByteArray → Except Fault (BitInput × ByteArray)
  | 0, _, _ => .error .corrupt
  | fuel + 1, input, out =>
    if limit < out.size then .error .tooLong
    else do
      let (symbol, input) ← literals.decode input
      if symbol < endOfBlock then
        symbols limit literals distances fuel input (out.push (UInt8.ofNat symbol))
      else if symbol = endOfBlock then .ok (input, out)
      else do
        let (length, input) ← withExtra lengthTable (symbol - endOfBlock - 1) input
        let (symbol, input) ← distances.decode input
        let (distance, input) ← withExtra distanceTable symbol input
        symbols limit literals distances fuel input (copyBack distance length out)

/-- The lengths of the fixed code of literals. -/
def fixedLiteralLengths : List Nat :=
  List.replicate 144 8 ++ List.replicate 112 9 ++ List.replicate 24 7 ++ List.replicate 8 8

/-- The lengths of the fixed code of distances. -/
def fixedDistanceLengths : List Nat := List.replicate 32 5

/-- The order in which the lengths of the code of code lengths are written. -/
def lengthOrder : List Nat := [16, 17, 18, 0, 8, 7, 9, 6, 10, 5, 11, 4, 12, 3, 13, 2, 14, 1, 15]

/-- Reads `count` lengths of three bits each. -/
def shortLengths : (count : Nat) → BitInput → Except Fault (List Nat × BitInput)
  | 0, input => .ok ([], input)
  | count + 1, input => do
    let (length, input) ← input.bits 3
    let (lengths, input) ← shortLengths count input
    .ok (length :: lengths, input)

/-- Reads code lengths until there are `wanted` of them; `read` holds those already
read, last first. Every symbol adds at least one, so `wanted` is enough fuel. -/
def codeLengths (code : Code) (wanted : Nat) :
    (fuel : Nat) → (read : List Nat) → BitInput → Except Fault (List Nat × BitInput)
  | 0, read, input => if read.length = wanted then .ok (read.reverse, input) else .error .corrupt
  | fuel + 1, read, input =>
    if read.length = wanted then .ok (read.reverse, input)
    else if wanted < read.length then .error .corrupt
    else do
      let (symbol, input) ← code.decode input
      if symbol < 16 then codeLengths code wanted fuel (symbol :: read) input
      else if symbol = 16 then
        match read with
        | [] => .error .corrupt
        | previous :: _ => do
          let (extra, input) ← input.bits 2
          codeLengths code wanted fuel (List.replicate (3 + extra) previous ++ read) input
      else do
        let (least, width) := if symbol = 17 then (3, 3) else (11, 7)
        let (extra, input) ← input.bits width
        codeLengths code wanted fuel (List.replicate (least + extra) 0 ++ read) input

/-- Reads the codes of a block that has its own. -/
def dynamicCodes (input : BitInput) : Except Fault (Code × Code × BitInput) := do
  let (literalCount, input) ← input.bits 5
  let (distanceCount, input) ← input.bits 5
  let (lengthCount, input) ← input.bits 4
  let literalCount := literalCount + 257
  let distanceCount := distanceCount + 1
  if 286 < literalCount ∨ 30 < distanceCount then .error .corrupt
  else do
    let (lengths, input) ← shortLengths (lengthCount + 4) input
    let placed := lengthOrder.zip lengths
    let code ← Code.ofLengths ((List.range 19).map fun symbol => (placed.lookup symbol).getD 0)
    let wanted := literalCount + distanceCount
    let (lengths, input) ← codeLengths code wanted wanted [] input
    let literals ← Code.ofLengths (lengths.take literalCount)
    let distances ← Code.ofLengths (lengths.drop literalCount)
    .ok (literals, distances, input)

/-- Reads a stored block, which begins at the next whole byte. -/
def stored (input : BitInput) (out : ByteArray) : Except Fault (BitInput × ByteArray) :=
  match input.rest with
  | a :: b :: c :: d :: rest =>
    let length := a.toNat + 256 * b.toNat
    if length + (c.toNat + 256 * d.toNat) ≠ 65535 then .error .corrupt
    else
      let (content, rest) := rest.splitAt length
      if content.length = length then .ok (⟨0, 0, rest⟩, content.foldl ByteArray.push out)
      else .error .corrupt
  | _ => .error .corrupt

/-- Reads one block; `fuel` is above the number of unread bits. -/
def block (limit : Nat) (fuel : Nat) (type : Nat) (input : BitInput) (out : ByteArray) :
    Except Fault (BitInput × ByteArray) :=
  match type with
  | 0 => stored input out
  | 1 => do
    let literals ← Code.ofLengths fixedLiteralLengths
    let distances ← Code.ofLengths fixedDistanceLengths
    symbols limit literals distances fuel input out
  | 2 => do
    let (literals, distances, input) ← dynamicCodes input
    symbols limit literals distances fuel input out
  | _ => .error .corrupt

/-- Reads blocks up to the final one. Every block takes at least three bits. -/
def blocks (limit : Nat) : (fuel : Nat) → BitInput → ByteArray → Except Fault ByteArray
  | 0, _, _ => .error .corrupt
  | fuel + 1, input, out => do
    let (final, input) ← input.bits 1
    let (type, input) ← input.bits 2
    let (input, out) ← block limit (fuel + 1) type input out
    if limit < out.size then .error .tooLong
    else if final = 1 then .ok out
    else blocks limit fuel input out

/-- The output of a stream, if it is at most `limit` bytes long. -/
def inflate (limit : Nat) (stream : Bytes) : Except Fault Bytes := do
  let out ← blocks limit (8 * stream.length + 1) ⟨0, 0, stream⟩ ByteArray.empty
  .ok (Bytes.ofByteArray out)

/-! ## Writing -/

/-- The longest content of a stored block. -/
def maxStored : Nat := 65535

/-- A stored block. -/
def storedBlock (final : Bool) (content : Bytes) : Bytes :=
  (if final then 1 else 0) :: Bytes.littleEndian 2 content.length ++
    Bytes.littleEndian 2 (maxStored - content.length) ++ content

/-- Stored blocks for some content, the last one final. Every block but the last is
full, so the length of the content is enough fuel. -/
def storedBlocks : (fuel : Nat) → Bytes → Bytes
  | 0, content => storedBlock true content
  | fuel + 1, content =>
    match content.splitAt maxStored with
    | (front, []) => storedBlock true front
    | (front, rest) => storedBlock false front ++ storedBlocks fuel rest

/-- A stream with the given output. -/
def deflate (content : Bytes) : Bytes :=
  storedBlocks content.length content

end Ferry.Deflate
