import Ferry.Bytes

/-!
# AES with 256-bit keys, in counter mode

The block cipher of FIPS 197 with 14 rounds, and the keystream that it makes by
encrypting successive values of a 128-bit counter. Encrypting and decrypting are the
same: each byte is combined with the keystream byte at its position.
-/

namespace Ferry.Aes

/-- The byte substitution. -/
def substitution : Array UInt8 := #[
  0x63, 0x7c, 0x77, 0x7b, 0xf2, 0x6b, 0x6f, 0xc5, 0x30, 0x01, 0x67, 0x2b, 0xfe, 0xd7,
  0xab, 0x76, 0xca, 0x82, 0xc9, 0x7d, 0xfa, 0x59, 0x47, 0xf0, 0xad, 0xd4, 0xa2, 0xaf,
  0x9c, 0xa4, 0x72, 0xc0, 0xb7, 0xfd, 0x93, 0x26, 0x36, 0x3f, 0xf7, 0xcc, 0x34, 0xa5,
  0xe5, 0xf1, 0x71, 0xd8, 0x31, 0x15, 0x04, 0xc7, 0x23, 0xc3, 0x18, 0x96, 0x05, 0x9a,
  0x07, 0x12, 0x80, 0xe2, 0xeb, 0x27, 0xb2, 0x75, 0x09, 0x83, 0x2c, 0x1a, 0x1b, 0x6e,
  0x5a, 0xa0, 0x52, 0x3b, 0xd6, 0xb3, 0x29, 0xe3, 0x2f, 0x84, 0x53, 0xd1, 0x00, 0xed,
  0x20, 0xfc, 0xb1, 0x5b, 0x6a, 0xcb, 0xbe, 0x39, 0x4a, 0x4c, 0x58, 0xcf, 0xd0, 0xef,
  0xaa, 0xfb, 0x43, 0x4d, 0x33, 0x85, 0x45, 0xf9, 0x02, 0x7f, 0x50, 0x3c, 0x9f, 0xa8,
  0x51, 0xa3, 0x40, 0x8f, 0x92, 0x9d, 0x38, 0xf5, 0xbc, 0xb6, 0xda, 0x21, 0x10, 0xff,
  0xf3, 0xd2, 0xcd, 0x0c, 0x13, 0xec, 0x5f, 0x97, 0x44, 0x17, 0xc4, 0xa7, 0x7e, 0x3d,
  0x64, 0x5d, 0x19, 0x73, 0x60, 0x81, 0x4f, 0xdc, 0x22, 0x2a, 0x90, 0x88, 0x46, 0xee,
  0xb8, 0x14, 0xde, 0x5e, 0x0b, 0xdb, 0xe0, 0x32, 0x3a, 0x0a, 0x49, 0x06, 0x24, 0x5c,
  0xc2, 0xd3, 0xac, 0x62, 0x91, 0x95, 0xe4, 0x79, 0xe7, 0xc8, 0x37, 0x6d, 0x8d, 0xd5,
  0x4e, 0xa9, 0x6c, 0x56, 0xf4, 0xea, 0x65, 0x7a, 0xae, 0x08, 0xba, 0x78, 0x25, 0x2e,
  0x1c, 0xa6, 0xb4, 0xc6, 0xe8, 0xdd, 0x74, 0x1f, 0x4b, 0xbd, 0x8b, 0x8a, 0x70, 0x3e,
  0xb5, 0x66, 0x48, 0x03, 0xf6, 0x0e, 0x61, 0x35, 0x57, 0xb9, 0x86, 0xc1, 0x1d, 0x9e,
  0xe1, 0xf8, 0x98, 0x11, 0x69, 0xd9, 0x8e, 0x94, 0x9b, 0x1e, 0x87, 0xe9, 0xce, 0x55,
  0x28, 0xdf, 0x8c, 0xa1, 0x89, 0x0d, 0xbf, 0xe6, 0x42, 0x68, 0x41, 0x99, 0x2d, 0x0f,
  0xb0, 0x54, 0xbb, 0x16]

/-- Substitutes a byte. -/
def substitute (byte : UInt8) : UInt8 := substitution.getD byte.toNat 0

/-- Doubles a byte in the field of 256 elements. -/
def double (byte : UInt8) : UInt8 :=
  if byte < 0x80 then byte <<< 1 else (byte <<< 1) ^^^ 0x1b

/-- The size of a block in bytes. -/
def blockSize : Nat := 16

/-- How many rounds a block goes through. -/
def rounds : Nat := 14

/-- A word of the key schedule: four bytes. -/
abbrev Word := List UInt8

/-- Combines two words. -/
def combine (left right : Bytes) : Bytes := left.zipWith (· ^^^ ·) right

/-- Adds `count` words to a key schedule that already has eight; `constant` is the
round constant of the next word with one. -/
def expand : (count : Nat) → (constant : UInt8) → Array Word → Array Word
  | 0, _, schedule => schedule
  | count + 1, constant, schedule =>
    let previous := schedule.getD (schedule.size - 1) []
    let earlier := schedule.getD (schedule.size - 8) []
    if schedule.size % 8 = 0 then
      let turned := (previous.drop 1 ++ previous.take 1).map substitute
      let marked := combine turned [constant, 0, 0, 0]
      expand count (double constant) (schedule.push (combine earlier marked))
    else if schedule.size % 8 = 4 then
      expand count constant (schedule.push (combine earlier (previous.map substitute)))
    else expand count constant (schedule.push (combine earlier previous))

/-- The round keys of a 32-byte key, 16 bytes each. -/
def roundKeys (key : Bytes) : List Bytes :=
  let first := (Array.range 8).map fun index => (key.drop (4 * index)).take 4
  let schedule := expand (4 * (rounds + 1) - 8) 1 first
  (List.range (rounds + 1)).map fun round =>
    ((schedule.extract (4 * round) (4 * round + 4)).toList).flatten

/-- Turns the rows of a block, the first by nothing and each by one more. -/
def shiftRows (block : Array UInt8) : Array UInt8 :=
  (Array.range blockSize).map fun index =>
    block.getD ((index + 4 * (index % 4)) % blockSize) 0

/-- Mixes the columns of a block. -/
def mixColumns (block : Array UInt8) : Array UInt8 :=
  (Array.range blockSize).map fun index =>
    let column := index / 4 * 4
    let byte (row : Nat) : UInt8 := block.getD (column + (index + row) % 4) 0
    double (byte 0) ^^^ double (byte 1) ^^^ byte 1 ^^^ byte 2 ^^^ byte 3

/-- Combines a block with a round key. -/
def addKey (block : Array UInt8) (key : Bytes) : Array UInt8 :=
  (combine block.toList key).toArray

/-- The rounds after the first key; the last one mixes no columns. -/
def finishRounds : List Bytes → Array UInt8 → Array UInt8
  | [], block => block
  | [key], block => addKey (shiftRows (block.map substitute)) key
  | key :: keys, block =>
    finishRounds keys (addKey (mixColumns (shiftRows (block.map substitute))) key)

/-- Encrypts a block. -/
def encryptBlock (keys : List Bytes) (block : Bytes) : Bytes :=
  match keys with
  | [] => block
  | key :: keys => (finishRounds keys (addKey block.toArray key)).toList

/-- The keystream of `count` blocks from the counter value `counter` on. -/
def keystreamBlocks (keys : List Bytes) : (count counter : Nat) → Bytes
  | 0, _ => []
  | count + 1, counter =>
    encryptBlock keys (Bytes.bigEndian blockSize counter) ++
      keystreamBlocks keys count (counter + 1)

/-- The keystream bytes from `position` on, `length` of them, for a counter that begins
at `start`. -/
def keystream (key : Bytes) (start position length : Nat) : Bytes :=
  let skipped := position % blockSize
  let count := (skipped + length + (blockSize - 1)) / blockSize
  ((keystreamBlocks (roundKeys key) count (start + position / blockSize)).drop skipped).take
    length

/-- Combines data with the keystream from `position` on. -/
def apply (key : Bytes) (start position : Nat) (data : Bytes) : Bytes :=
  combine data (keystream key start position data.length)

end Ferry.Aes
