import Ferry.Wire.Varint

/-!
# Snappy blocks

A block is the length of its content as a variable-length integer, then elements: a
literal carries bytes, a copy repeats bytes from earlier in the output. The elements
must use up the block and give exactly the announced length. The length of a literal
stands in its tag or, mostly for more than 60 bytes, in one to four bytes of its own.
-/

namespace Ferry.Snappy

/-- The longest content that a block may announce. -/
def maxLength : Nat := UInt32.size - 1

/-- The announced length and the elements after it. The length has at most the bytes of a
32-bit number, and what does not fit into 32 bits is refused instead of dropped. -/
def announced (block : Bytes) : Option (Nat × Bytes) :=
  match Varint.groups Varint.maxBytes32 block with
  | .ok digits rest =>
    let length := Varint.ofGroups digits
    if length ≤ maxLength then some (length, rest) else none
  | .error _ _ => none

/-- The length of a literal, and what follows. -/
def literalLength (tag : UInt8) (rest : Bytes) : Option (Nat × Bytes) :=
  let short := tag.toNat / 4 + 1
  if short ≤ 60 then some (short, rest)
  else
    let (digits, rest) := rest.splitAt (short - 60)
    if digits.length = short - 60 then some (Bytes.ofLittleEndian digits + 1, rest) else none

/-- The length and the distance of a copy and what follows. -/
def copyOf (tag : UInt8) (rest : Bytes) : Option (Nat × Nat × Bytes) :=
  let number := tag.toNat
  match number % 4, rest with
  | 1, low :: rest => some (4 + number / 4 % 8, number / 32 * 256 + low.toNat, rest)
  | 2, a :: b :: rest => some (1 + number / 4, Bytes.ofLittleEndian [a, b], rest)
  | 3, a :: b :: c :: d :: rest =>
    some (1 + number / 4, Bytes.ofLittleEndian [a, b, c, d], rest)
  | _, _ => none

/-- Repeats `length` bytes from `distance` back. -/
def copyBack (distance : Nat) : (length : Nat) → ByteArray → ByteArray
  | 0, out => out
  | length + 1, out =>
    copyBack distance length (out.push (out.data.getD (out.size - distance) 0))

/-- Reads elements up to the end of the block. Every element takes at least one byte,
so a fuel of the number of bytes does not run out. -/
def elements (length : Nat) : (fuel : Nat) → Bytes → ByteArray → Option ByteArray
  | _, [], out => if out.size = length then some out else none
  | 0, _ :: _, _ => none
  | fuel + 1, tag :: rest, out =>
    if tag.toNat % 4 = 0 then
      match literalLength tag rest with
      | none => none
      | some (count, rest) =>
        let (content, rest) := rest.splitAt count
        if content.length ≠ count ∨ length < out.size + count then none
        else elements length fuel rest (content.foldl ByteArray.push out)
    else
      match copyOf tag rest with
      | none => none
      | some (count, distance, rest) =>
        if distance = 0 ∨ out.size < distance ∨ length < out.size + count then none
        else elements length fuel rest (copyBack distance count out)

/-- The content of elements that announce its length. -/
def content (length : Nat) (block : Bytes) : Option Bytes :=
  (elements length block.length block ByteArray.empty).map Bytes.ofByteArray

/-- A block with the given content: one literal, with its length in four bytes. -/
def compress (content : Bytes) : Bytes :=
  Varint.encode content.length ++
    if content.isEmpty then []
    else 0xfc :: Bytes.littleEndian 4 (content.length - 1) ++ content

end Ferry.Snappy
