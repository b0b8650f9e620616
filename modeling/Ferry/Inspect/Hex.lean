import Ferry.Bytes

/-!
# Byte strings as text

Bytes are shown as two lower-case hexadecimal digits each. A maximal run of at
least `shortestRun` equal bytes is shown once with its length, as `(00*4096)`, so
that padded bodies stay readable. Reading accepts both forms.
-/

namespace Ferry.Hex

/-- The shortest run that is shown by its length. -/
def shortestRun : Nat := 16

/-- The digit of a value below 16. -/
def digit (value : Nat) : Char :=
  if value < 10 then Char.ofNat (48 + value) else Char.ofNat (87 + value)

/-- The value of a digit. -/
def digitValue (digit : Char) : Nat :=
  if digit.isDigit then digit.toNat - 48
  else if 'a' ≤ digit && digit ≤ 'f' then digit.toNat - 87
  else digit.toNat - 55

/-- Adds the two digits of a byte. -/
def pushByte (out : String) (byte : UInt8) : String :=
  (out.push (digit (byte.toNat / 16))).push (digit (byte.toNat % 16))

/-- Adds a byte several times. -/
def pushMany (out : String) (byte : UInt8) : (count : Nat) → String
  | 0 => out
  | count + 1 => pushMany (pushByte out byte) byte count

/-- Adds a maximal run of a byte. -/
def pushRun (out : String) (byte : UInt8) (count : Nat) : String :=
  if count < shortestRun then pushMany out byte count
  else (pushByte (out.push '(') byte ++ "*" ++ toString count).push ')'

/-- Adds a byte string whose first run has already begun. -/
def pushRuns (out : String) (byte : UInt8) (count : Nat) : Bytes → String
  | [] => pushRun out byte count
  | next :: rest =>
    if next = byte then pushRuns out byte (count + 1) rest
    else pushRuns (pushRun out byte count) next 1 rest

/-- A byte string with its runs shown by their lengths. -/
def encode : Bytes → String
  | [] => ""
  | byte :: rest => pushRuns "" byte 1 rest

/-- A byte string with every byte shown. -/
def encodePlain (bytes : Bytes) : String :=
  bytes.foldl pushByte ""

/-- Puts a byte several times in front. -/
def repeatOnto (byte : UInt8) (bytes : Bytes) : (count : Nat) → Bytes
  | 0 => bytes
  | count + 1 => repeatOnto byte (byte :: bytes) count

/-- What a reader of shown bytes is in the middle of. -/
inductive State where
  /-- Between bytes. -/
  | outside
  /-- After the first digit of a byte. -/
  | half (high : Nat)
  /-- In a run, before its byte. -/
  | run
  /-- In a run, after the first digit of its byte. -/
  | runHalf (high : Nat)
  /-- In the length of a run. -/
  | length (byte : UInt8) (count : Nat)

/-- Reads shown bytes; `read` holds those already read, last first. -/
def decodeOnto (read : Bytes) : State → List Char → Bytes
  | _, [] => read.reverse
  | .outside, '(' :: rest => decodeOnto read .run rest
  | .outside, high :: rest => decodeOnto read (.half (digitValue high)) rest
  | .half high, low :: rest =>
    decodeOnto (UInt8.ofNat (16 * high + digitValue low) :: read) .outside rest
  | .run, high :: rest => decodeOnto read (.runHalf (digitValue high)) rest
  | .runHalf high, low :: rest =>
    decodeOnto read (.length (UInt8.ofNat (16 * high + digitValue low)) 0) rest
  | .length byte count, '*' :: rest => decodeOnto read (.length byte count) rest
  | .length byte count, ')' :: rest => decodeOnto (repeatOnto byte read count) .outside rest
  | .length byte count, digit :: rest =>
    decodeOnto read (.length byte (10 * count + digitValue digit)) rest

/-- The bytes that are shown. -/
def decode (shown : String) : Bytes :=
  decodeOnto [] .outside shown.toList

end Ferry.Hex
