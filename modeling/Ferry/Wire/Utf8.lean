import Ferry.Bytes

/-!
# Where a byte string stops being UTF-8

A text on the wire is refused unless it is well-formed UTF-8. The refusal names
the length of the longest well-formed front and, when the bytes that follow are
no beginning of any character, the length of the maximal ill-formed part: the
bytes that do begin a character, at least one.

`lengthOfLead` and `allowedSecond` are the table of well-formed sequences; the
second byte is restricted after `E0`, `ED`, `F0` and `F4` so that overlong forms,
surrogates and values past the last code point are never accepted.
-/

namespace Ferry.Utf8

/-- The first place where a byte string is not UTF-8. -/
structure Fault where
  /-- Length of the longest well-formed front. -/
  validUpTo : Nat
  /-- Length of the ill-formed part, or nothing when the input ends inside a character. -/
  length? : Option Nat
  deriving DecidableEq, Repr

/-- The wording of a refused text. -/
def Fault.message (fault : Fault) : String :=
  match fault.length? with
  | some length => s!"invalid utf-8 sequence of {length} bytes from index {fault.validUpTo}"
  | none => s!"incomplete utf-8 byte sequence from index {fault.validUpTo}"

/-- How many bytes the character begun by `lead` has; nothing if none begins with it. -/
def lengthOfLead (lead : UInt8) : Option Nat :=
  if lead < 0x80 then some 1
  else if lead < 0xc2 then none
  else if lead < 0xe0 then some 2
  else if lead < 0xf0 then some 3
  else if lead < 0xf5 then some 4
  else none

/-- A continuation byte. -/
def isContinuation (byte : UInt8) : Bool :=
  0x80 ≤ byte && byte ≤ 0xbf

/-- Whether `second` may follow `lead` in a character of several bytes. -/
def allowedSecond (lead second : UInt8) : Bool :=
  if lead = 0xe0 then 0xa0 ≤ second && second ≤ 0xbf
  else if lead = 0xed then 0x80 ≤ second && second ≤ 0x9f
  else if lead = 0xf0 then 0x90 ≤ second && second ≤ 0xbf
  else if lead = 0xf4 then 0x80 ≤ second && second ≤ 0x8f
  else isContinuation second

/-- What the bytes of one character turned out to be. -/
inductive Step where
  /-- A whole character, with the bytes after it. -/
  | character (length : Nat) (rest : Bytes)
  /-- No character begins like this; so many bytes are ill-formed. -/
  | illFormed (length : Nat)
  /-- The input ends inside a character. -/
  | incomplete

/-- Checks the continuation bytes after the first two of a character. -/
def continuation : (missing taken : Nat) → Bytes → Step
  | 0, taken, rest => .character taken rest
  | _ + 1, _, [] => .incomplete
  | missing + 1, taken, byte :: rest =>
    if isContinuation byte then continuation missing (taken + 1) rest else .illFormed taken

/-- Checks the character begun by `lead`. -/
def step (lead : UInt8) (rest : Bytes) : Step :=
  match lengthOfLead lead with
  | none => .illFormed 1
  | some 1 => .character 1 rest
  | some length =>
    match rest with
    | [] => .incomplete
    | second :: rest =>
      if allowedSecond lead second then continuation (length - 2) 2 rest else .illFormed 1

/-- The first fault at or after position `position`; `fuel` bounds the characters looked at. -/
def faultFrom : (fuel position : Nat) → Bytes → Option Fault
  | 0, _, _ => none
  | _ + 1, _, [] => none
  | fuel + 1, position, lead :: rest =>
    match step lead rest with
    | .character length rest => faultFrom fuel (position + length) rest
    | .illFormed length => some ⟨position, some length⟩
    | .incomplete => some ⟨position, none⟩

/-- The first fault of a byte string; none if it is UTF-8 throughout. A character
takes at least one byte, so the length of the input bounds their number. -/
def fault? (bytes : Bytes) : Option Fault :=
  faultFrom bytes.length 0 bytes

/-- The fault of a byte string already known not to be UTF-8. -/
def fault (bytes : Bytes) : Fault :=
  (fault? bytes).getD ⟨bytes.length, none⟩

end Ferry.Utf8
