import Ferry.Bytes

/-!
# SHA-256

The 256-bit hash of FIPS 180-4. The input is followed by a one bit, zeros and its
length in bits, up to a multiple of 64 bytes; each block of 64 bytes is expanded to
64 words that are mixed into eight words of state.
-/

namespace Ferry.Sha256

/-- The words that the state begins with. -/
def initial : Array UInt32 :=
  #[0x6a09e667, 0xbb67ae85, 0x3c6ef372, 0xa54ff53a, 0x510e527f, 0x9b05688c, 0x1f83d9ab,
    0x5be0cd19]

/-- The word added in each step. -/
def constants : Array UInt32 := #[
  0x428a2f98, 0x71374491, 0xb5c0fbcf, 0xe9b5dba5, 0x3956c25b, 0x59f111f1, 0x923f82a4, 0xab1c5ed5,
  0xd807aa98, 0x12835b01, 0x243185be, 0x550c7dc3, 0x72be5d74, 0x80deb1fe, 0x9bdc06a7, 0xc19bf174,
  0xe49b69c1, 0xefbe4786, 0x0fc19dc6, 0x240ca1cc, 0x2de92c6f, 0x4a7484aa, 0x5cb0a9dc, 0x76f988da,
  0x983e5152, 0xa831c66d, 0xb00327c8, 0xbf597fc7, 0xc6e00bf3, 0xd5a79147, 0x06ca6351, 0x14292967,
  0x27b70a85, 0x2e1b2138, 0x4d2c6dfc, 0x53380d13, 0x650a7354, 0x766a0abb, 0x81c2c92e, 0x92722c85,
  0xa2bfe8a1, 0xa81a664b, 0xc24b8b70, 0xc76c51a3, 0xd192e819, 0xd6990624, 0xf40e3585, 0x106aa070,
  0x19a4c116, 0x1e376c08, 0x2748774c, 0x34b0bcb5, 0x391c0cb3, 0x4ed8aa4a, 0x5b9cca4f, 0x682e6ff3,
  0x748f82ee, 0x78a5636f, 0x84c87814, 0x8cc70208, 0x90befffa, 0xa4506ceb, 0xbef9a3f7, 0xc67178f2]

/-- Turns a word to the right. -/
def rotateRight (word : UInt32) (count : UInt32) : UInt32 :=
  (word >>> count) ||| (word <<< (32 - count))

/-- Expands the words of a block by `count` more, each from four earlier ones. -/
def expand : (count : Nat) → Array UInt32 → Array UInt32
  | 0, words => words
  | count + 1, words =>
    let word (back : Nat) : UInt32 := words.getD (words.size - back) 0
    let low := rotateRight (word 15) 7 ^^^ rotateRight (word 15) 18 ^^^ (word 15 >>> 3)
    let high := rotateRight (word 2) 17 ^^^ rotateRight (word 2) 19 ^^^ (word 2 >>> 10)
    expand count (words.push (word 16 + low + word 7 + high))

/-- The eight working words. -/
structure State where
  a : UInt32
  b : UInt32
  c : UInt32
  d : UInt32
  e : UInt32
  f : UInt32
  g : UInt32
  h : UInt32

/-- One step: mixes in a constant and a word of the block. -/
def State.step (state : State) (addend : UInt32) : State :=
  let upper := rotateRight state.e 6 ^^^ rotateRight state.e 11 ^^^ rotateRight state.e 25
  let choice := (state.e &&& state.f) ^^^ (~~~state.e &&& state.g)
  let first := state.h + upper + choice + addend
  let lower := rotateRight state.a 2 ^^^ rotateRight state.a 13 ^^^ rotateRight state.a 22
  let majority := (state.a &&& state.b) ^^^ (state.a &&& state.c) ^^^ (state.b &&& state.c)
  ⟨first + (lower + majority), state.a, state.b, state.c, state.d + first, state.e, state.f,
    state.g⟩

/-- Mixes a block of 64 bytes into the hash so far. -/
def compress (hash : Array UInt32) (block : Array UInt8) : Array UInt32 :=
  let words := (Array.range 16).map fun index =>
    UInt32.ofNat (Bytes.ofBigEndian ((block.extract (4 * index) (4 * index + 4)).toList))
  let words := expand 48 words
  let word (index : Nat) : UInt32 := hash.getD index 0
  let start : State :=
    ⟨word 0, word 1, word 2, word 3, word 4, word 5, word 6, word 7⟩
  let addends := (constants.zip words).map fun (constant, word) => constant + word
  let last := addends.foldl State.step start
  #[word 0 + last.a, word 1 + last.b, word 2 + last.c, word 3 + last.d, word 4 + last.e,
    word 5 + last.f, word 6 + last.g, word 7 + last.h]

/-- The input with its padding. -/
def padded (input : Bytes) : Array UInt8 :=
  let zeros := (119 - input.length % 64) % 64
  (input ++ 0x80 :: List.replicate zeros 0 ++ Bytes.bigEndian 8 (8 * input.length)).toArray

/-- Mixes `count` blocks into the hash so far, beginning at `index`. -/
def blocks (input : Array UInt8) : (count index : Nat) → Array UInt32 → Array UInt32
  | 0, _, hash => hash
  | count + 1, index, hash =>
    blocks input count (index + 1) (compress hash (input.extract (64 * index) (64 * index + 64)))

/-- The 32 bytes of the hash. -/
def digest (input : Bytes) : Bytes :=
  let message := padded input
  (blocks message (message.size / 64) 0 initial).toList.flatMap fun word =>
    Bytes.bigEndian 4 word.toNat

end Ferry.Sha256
