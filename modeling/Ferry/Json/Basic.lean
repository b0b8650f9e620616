import Ferry.Bytes

/-!
# JSON documents

A document keeps its numbers and texts as they are written. Whether a text is
UTF-8 and its surrogate escapes are paired, and whether a number is a whole
number in some range, is decided only when somebody asks for it: a member that
nobody looks at may hold anything that the grammar allows.
-/

namespace Ferry

/-- A document. Members of an object keep their order, and repeated names are kept. -/
inductive Json where
  | null
  | bool (value : Bool)
  /-- The digits as written. -/
  | number (written : Bytes)
  /-- What stands between the quotes, as written. -/
  | text (written : Bytes)
  | array (elements : List Json)
  | object (members : List (Bytes × Json))
  deriving Inhabited

namespace Json

/-! ## Texts -/

/-- The quotation mark. -/
def quote : UInt8 := 0x22

/-- The value of a hexadecimal digit of either case. -/
def hexDigit? (digit : UInt8) : Option Nat :=
  if 0x30 ≤ digit && digit ≤ 0x39 then some (digit.toNat - 0x30)
  else if 0x61 ≤ digit && digit ≤ 0x66 then some (digit.toNat - 0x61 + 10)
  else if 0x41 ≤ digit && digit ≤ 0x46 then some (digit.toNat - 0x41 + 10)
  else none

/-- The number written by four hexadecimal digits. -/
def hexUnit? (a b c d : UInt8) : Option Nat := do
  let a ← hexDigit? a
  let b ← hexDigit? b
  let c ← hexDigit? c
  let d ← hexDigit? d
  some (((a * 16 + b) * 16 + c) * 16 + d)

/-- The character behind each escape of one letter. -/
def escapes : List (UInt8 × UInt8) :=
  [(0x22, 0x22), (0x5c, 0x5c), (0x2f, 0x2f), (0x62, 0x08), (0x66, 0x0c), (0x6e, 0x0a),
    (0x72, 0x0d), (0x74, 0x09)]

/-- The first half of an escaped character beyond the 16-bit range. -/
def isHighSurrogate (unit : Nat) : Bool := 0xd800 ≤ unit && unit ≤ 0xdbff

/-- The second half of an escaped character beyond the 16-bit range. -/
def isLowSurrogate (unit : Nat) : Bool := 0xdc00 ≤ unit && unit ≤ 0xdfff

/-- The bytes that a written text stands for, put before `read` in reverse; nothing
if an escape is malformed or a surrogate stands alone. -/
def unescapeOnto (read : Bytes) : Bytes → Option Bytes
  | 0x5c :: 0x75 :: a :: b :: c :: d :: 0x5c :: 0x75 :: e :: f :: g :: h :: rest => do
    let first ← hexUnit? a b c d
    let second ← hexUnit? e f g h
    if isHighSurrogate first then
      if isLowSurrogate second then
        let character := Char.ofNat (0x10000 + (first - 0xd800) * 0x400 + (second - 0xdc00))
        unescapeOnto ((String.utf8EncodeChar character).reverse ++ read) rest
      else none
    else if isLowSurrogate first then none
    else
      unescapeOnto ((String.utf8EncodeChar (Char.ofNat first)).reverse ++ read)
        (0x5c :: 0x75 :: e :: f :: g :: h :: rest)
  | 0x5c :: 0x75 :: a :: b :: c :: d :: rest => do
    let unit ← hexUnit? a b c d
    if isHighSurrogate unit || isLowSurrogate unit then none
    else unescapeOnto ((String.utf8EncodeChar (Char.ofNat unit)).reverse ++ read) rest
  | 0x5c :: letter :: rest => do
    let byte ← escapes.lookup letter
    unescapeOnto (byte :: read) rest
  | byte :: rest => unescapeOnto (byte :: read) rest
  | [] => some read.reverse

/-- The text that a written text stands for. -/
def unescape? (written : Bytes) : Option String := do
  let bytes ← unescapeOnto [] written
  String.fromUTF8? (Bytes.pack bytes)

/-- How a byte of a text is written. -/
def escapeByte (byte : UInt8) : Bytes :=
  if byte = 0x22 then [0x5c, 0x22]
  else if byte = 0x5c then [0x5c, 0x5c]
  else if byte = 0x08 then [0x5c, 0x62]
  else if byte = 0x0c then [0x5c, 0x66]
  else if byte = 0x0a then [0x5c, 0x6e]
  else if byte = 0x0d then [0x5c, 0x72]
  else if byte = 0x09 then [0x5c, 0x74]
  else if byte < 0x20 then
    let digit (value : UInt8) : UInt8 := if value < 10 then 0x30 + value else 0x57 + value
    [0x5c, 0x75, 0x30, 0x30, digit (byte / 16), digit (byte % 16)]
  else [byte]

/-- A text as a document. -/
def ofString (value : String) : Json :=
  text ((Bytes.ofString value).flatMap escapeByte)

/-- The text of a document that is one. -/
def toString? : Json → Option String
  | text written => unescape? written
  | _ => none

/-! ## Numbers -/

/-- A whole number as a document. -/
def ofInt (value : Int) : Json :=
  number (Bytes.ofString (toString value))

/-- A whole number as a document. -/
def ofNat (value : Nat) : Json := ofInt value

/-- A decimal digit. -/
def isDigit (byte : UInt8) : Bool := 0x30 ≤ byte && byte ≤ 0x39

/-- The number that decimal digits write. -/
def ofDigits (digits : Bytes) : Nat :=
  digits.foldl (fun value digit => 10 * value + (digit.toNat - 0x30)) 0

/-- The whole number of a document that is one: digits with no fraction and no
exponent, and no negative zero. -/
def toInt? : Json → Option Int
  | number (0x2d :: digits) =>
    if digits.all isDigit && ofDigits digits ≠ 0 then some (-(ofDigits digits : Int)) else none
  | number digits => if digits.all isDigit then some (ofDigits digits) else none
  | _ => none

/-! ## Members -/

/-- An object with texts for names. -/
def ofMembers (members : List (String × Json)) : Json :=
  object (members.map fun (name, value) => ((Bytes.ofString name).flatMap escapeByte, value))

/-- The first member of a name whose value is not null. -/
def member? (document : Json) (name : String) : Option Json :=
  match document with
  | object members =>
    match members.find? fun (written, _) => unescape? written = some name with
    | some (_, null) => none
    | some (_, value) => some value
    | none => none
  | _ => none

/-- The members of a document that is an object, with texts for names. -/
def members? : Json → Option (List (String × Json))
  | object members => members.mapM fun (written, value) => do some (← unescape? written, value)
  | _ => none

/-- The elements of a document that is an array. -/
def elements? : Json → Option (List Json)
  | array elements => some elements
  | _ => none

/-! ## Writing -/

/-- Adds bytes at the end. -/
def push (out : ByteArray) (bytes : Bytes) : ByteArray :=
  bytes.foldl ByteArray.push out

mutual

/-- Writes a document at the end of `out`, without blanks. -/
def renderOnto (out : ByteArray) : Json → ByteArray
  | null => push out [0x6e, 0x75, 0x6c, 0x6c]
  | bool true => push out [0x74, 0x72, 0x75, 0x65]
  | bool false => push out [0x66, 0x61, 0x6c, 0x73, 0x65]
  | number written => push out written
  | text written => (push (out.push quote) written).push quote
  | array elements => (renderElements (out.push 0x5b) true elements).push 0x5d
  | object members => (renderMembers (out.push 0x7b) true members).push 0x7d

/-- Writes the elements of an array, a comma before each but the first. -/
def renderElements (out : ByteArray) (first : Bool) : List Json → ByteArray
  | [] => out
  | element :: elements =>
    renderElements (renderOnto (if first then out else out.push 0x2c) element) false elements

/-- Writes the members of an object, a comma before each but the first. -/
def renderMembers (out : ByteArray) (first : Bool) : List (Bytes × Json) → ByteArray
  | [] => out
  | (name, value) :: members =>
    let out := if first then out else out.push 0x2c
    let out := ((push (out.push quote) name).push quote).push 0x3a
    renderMembers (renderOnto out value) false members

end

/-- A document as bytes. -/
def render (document : Json) : ByteArray :=
  renderOnto ByteArray.empty document

end Json

end Ferry
