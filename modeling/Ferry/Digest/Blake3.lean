import Ferry.Bytes

/-!
# BLAKE3

The 256-bit hash of a byte string. The input is cut into chunks of 1024 bytes and
each chunk into blocks of 64; the chunks are the leaves of a binary tree whose left
subtrees are as large as a power of two allows. Every node is one application of
`compress`; the digest is the root's, marked as such by a flag.
-/

namespace Ferry.Blake3

/-- The words that a chaining value begins with. -/
def initial : Array UInt32 :=
  #[0x6a09e667, 0xbb67ae85, 0x3c6ef372, 0xa54ff53a, 0x510e527f, 0x9b05688c, 0x1f83d9ab,
    0x5be0cd19]

/-- Where each message word comes from in the next round. -/
def permutation : Array Nat := #[2, 6, 3, 10, 7, 0, 4, 13, 1, 11, 12, 5, 9, 14, 15, 8]

/-- Marks the first block of a chunk. -/
def chunkStart : UInt32 := 1
/-- Marks the last block of a chunk. -/
def chunkEnd : UInt32 := 2
/-- Marks a node that has children. -/
def parent : UInt32 := 4
/-- Marks the node at the top of the tree. -/
def root : UInt32 := 8

/-- The size of a block in bytes. -/
def blockSize : Nat := 64

/-- The size of a chunk in bytes. -/
def chunkSize : Nat := 1024

/-- Turns a word to the right. -/
def rotateRight (word : UInt32) (count : UInt32) : UInt32 :=
  (word >>> count) ||| (word <<< (32 - count))

/-- Mixes two message words into four words of the state. -/
def mix (state : Array UInt32) (a b c d : Nat) (first second : UInt32) : Array UInt32 :=
  let wa := state.getD a 0 + state.getD b 0 + first
  let wd := rotateRight (state.getD d 0 ^^^ wa) 16
  let wc := state.getD c 0 + wd
  let wb := rotateRight (state.getD b 0 ^^^ wc) 12
  let wa := wa + wb + second
  let wd := rotateRight (wd ^^^ wa) 8
  let wc := wc + wd
  let wb := rotateRight (wb ^^^ wc) 7
  (((state.setIfInBounds a wa).setIfInBounds b wb).setIfInBounds c wc).setIfInBounds d wd

/-- One round: the columns of the state, then its diagonals. -/
def round (state message : Array UInt32) : Array UInt32 :=
  let word (index : Nat) : UInt32 := message.getD index 0
  let state := mix state 0 4 8 12 (word 0) (word 1)
  let state := mix state 1 5 9 13 (word 2) (word 3)
  let state := mix state 2 6 10 14 (word 4) (word 5)
  let state := mix state 3 7 11 15 (word 6) (word 7)
  let state := mix state 0 5 10 15 (word 8) (word 9)
  let state := mix state 1 6 11 12 (word 10) (word 11)
  let state := mix state 2 7 8 13 (word 12) (word 13)
  mix state 3 4 9 14 (word 14) (word 15)

/-- Several rounds, the message words permuted after each. -/
def rounds : (count : Nat) → (state message : Array UInt32) → Array UInt32
  | 0, state, _ => state
  | count + 1, state, message =>
    rounds count (round state message) (permutation.map fun index => message.getD index 0)

/-- A node of the tree before it is compressed. -/
structure Node where
  chaining : Array UInt32
  message : Array UInt32
  counter : UInt64
  length : UInt32
  flags : UInt32

/-- The eight words that a node passes on. -/
def Node.compress (node : Node) (extra : UInt32) : Array UInt32 :=
  let state := node.chaining ++ initial.extract 0 4 ++
    #[node.counter.toUInt32, (node.counter >>> 32).toUInt32, node.length, node.flags ||| extra]
  let state := rounds 7 state node.message
  (Array.range 8).map fun index => state.getD index 0 ^^^ state.getD (index + 8) 0

/-- The bytes cut into pieces of `size`, the last perhaps shorter; no bytes are one
empty piece. A piece has at least one byte, so the length of the input is enough fuel. -/
def pieces (size : Nat) : (fuel : Nat) → Bytes → List Bytes
  | 0, bytes => [bytes]
  | fuel + 1, bytes =>
    match bytes.splitAt size with
    | (piece, []) => [piece]
    | (piece, rest) => piece :: pieces size fuel rest

/-- The words of a block, padded with zeros. -/
def blockWords (block : Bytes) : Array UInt32 :=
  let padded := (block ++ List.replicate (blockSize - block.length) 0).toArray
  (Array.range 16).map fun index =>
    UInt32.ofNat (Bytes.ofLittleEndian
      ((padded.extract (4 * index) (4 * index + 4)).toList))

/-- The last block of a chunk as a node, the earlier blocks compressed into its
chaining value. -/
def chunkBlocks (counter : UInt64) (flags : UInt32) (chaining : Array UInt32) :
    List Bytes → Node
  | [] => ⟨chaining, blockWords [], counter, 0, flags ||| chunkEnd⟩
  | [block] =>
    ⟨chaining, blockWords block, counter, UInt32.ofNat block.length, flags ||| chunkEnd⟩
  | block :: blocks =>
    let node : Node := ⟨chaining, blockWords block, counter, UInt32.ofNat block.length, flags⟩
    chunkBlocks counter 0 (node.compress 0) blocks

/-- A chunk as a node. -/
def chunkNode (counter : Nat) (chunk : Bytes) : Node :=
  chunkBlocks (UInt64.ofNat counter) chunkStart initial
    (pieces blockSize chunk.length chunk)

/-- The node above two nodes. -/
def parentNode (left right : Node) : Node :=
  ⟨initial, left.compress 0 ++ right.compress 0, 0, UInt32.ofNat blockSize, parent⟩

/-- The root of the tree over some nodes. The left subtree takes the largest power of
two below their number; `fuel` is their number. -/
def tree : (fuel : Nat) → List Node → Option Node
  | _, [] => none
  | _, [node] => some node
  | 0, node :: _ => some node
  | fuel + 1, nodes => do
    let (left, right) := nodes.splitAt (1 <<< (nodes.length - 1).log2)
    let left ← tree fuel left
    let right ← tree fuel right
    some (parentNode left right)

/-- The 32 bytes of the hash. -/
def digest (input : Bytes) : Bytes :=
  let chunks := pieces chunkSize input.length input
  let nodes := chunks.zipIdx.map fun (chunk, counter) => chunkNode counter chunk
  match tree nodes.length nodes with
  | some node =>
    (node.compress root).toList.flatMap fun word => Bytes.littleEndian 4 word.toNat
  | none => []

end Ferry.Blake3
