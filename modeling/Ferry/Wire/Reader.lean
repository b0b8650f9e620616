import Ferry.Wire.Utf8

/-!
# Reading values off the front of a byte string

A `Reader` takes a value off the front of the unread bytes. It also says which
bytes are still unread when it fails: the bytes that were looked at before the
fault stay consumed, and the one primitive that takes bytes, `Reader.take`,
consumes nothing when too few remain.
-/

namespace Ferry

/-- Why a value could not be read. -/
inductive DecodeError where
  /-- Fewer bytes remain than the value needs. -/
  | endOfStream (needed left : Nat)
  /-- A truth value that is neither 0 nor 1. -/
  | invalidBool (pattern : UInt8)
  /-- A variable-length integer whose last permitted byte announces another. -/
  | varintTooLong
  /-- An announced array longer than `bufferLimit`. -/
  | arrayTooLong (length : Nat)
  /-- A packet body that goes on after its last field. -/
  | trailingBytes (count : Nat)
  /-- A text that is not UTF-8. -/
  | invalidText (fault : Utf8.Fault)
  /-- A tag that announces a negative length. -/
  | negativeTagLength (length : Int32)
  /-- Tags nested deeper than `Tag.maxDepth`. -/
  | tagNestingTooDeep
  /-- A tag type outside the grammar. -/
  | unknownTagType (type : UInt8)
  /-- A choice field that selects no alternative. -/
  | invalidDiscriminant (discriminant : Nat)
  deriving DecidableEq, Repr

/-- How deep the payloads of a tag may be nested below its root. -/
def Tag.maxDepth : Nat := 512

/-- The wording of a decode error. -/
def DecodeError.message : DecodeError → String
  | .endOfStream needed left => s!"need {needed} more bytes, but only {left} remain"
  | .invalidBool pattern => s!"invalid boolean pattern {pattern} - expected either 0 or 1"
  | .varintTooLong => "varint / varlong is too long"
  | .arrayTooLong length => s!"byte array of length {length} exceeds the maximum allowed"
  | .trailingBytes count => s!"{count} unread bytes after the packet body"
  | .invalidText fault => fault.message
  | .negativeTagLength length => s!"negative NBT length {length.toInt}"
  | .tagNestingTooDeep => s!"NBT nesting exceeds {Tag.maxDepth}"
  | .unknownTagType type => s!"unknown NBT tag type {type}"
  | .invalidDiscriminant discriminant => s!"invalid discriminant '{discriminant}'"

/-- Takes a value off the unread bytes; a failure keeps the bytes it left unread. -/
abbrev Reader := EStateM DecodeError Bytes

namespace Reader

variable {α : Type}

/-- The value read, whatever remains unread. -/
def valueOf (reader : Reader α) (input : Bytes) : Except DecodeError α :=
  match reader input with
  | .ok value _ => .ok value
  | .error fault _ => .error fault

/-- Takes the next byte. -/
def byte : Reader UInt8
  | first :: rest => .ok first rest
  | [] => .error (.endOfStream 1 0) []

/-- Takes the next `count` bytes, or fails without consuming any. -/
def take (count : Nat) : Reader Bytes := fun input =>
  let (front, rest) := input.splitAt count
  if front.length = count then .ok front rest
  else .error (.endOfStream count front.length) input

/-- Takes everything that is left. -/
def rest : Reader Bytes := fun input => .ok input []

/-- Succeeds only when nothing is left. -/
def finish : Reader Unit
  | [] => .ok () []
  | input => .error (.trailingBytes input.length) input

/-- Reads `count` values in a row; `read` holds those already read, last first. -/
def manyOnto (element : Reader α) : (count : Nat) → (read : List α) → Reader (List α)
  | 0, read => pure read.reverse
  | count + 1, read => do
    let value ← element
    manyOnto element count (value :: read)

/-- Reads `count` values in a row. -/
def many (count : Nat) (element : Reader α) : Reader (List α) :=
  manyOnto element count []

/-- Reads `count` values in a row and forgets them. -/
def skipMany : (count : Nat) → Reader α → Reader Unit
  | 0, _ => pure ()
  | count + 1, element => do
    let _ ← element
    skipMany count element

/-- The very bytes that a reader consumes. -/
def spanOf (reader : Reader α) : Reader Bytes := fun input =>
  match reader input with
  | .ok _ rest => .ok (input.take (input.length - rest.length)) rest
  | .error fault rest => .error fault rest

/-- A whole body: the reader must leave nothing unread. -/
def whole (reader : Reader α) : Reader α := do
  let value ← reader
  finish
  pure value

end Reader

end Ferry
