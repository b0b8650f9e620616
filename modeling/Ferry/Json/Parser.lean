import Ferry.Json.Basic

/-!
# Reading JSON documents

The parser accepts the grammar of RFC 8259 and nothing else: no leading zeros, no
comments, no comma before a closing bracket, and no control characters in texts.
Every step takes at least one byte, so twice the length of the input is enough
fuel for the whole document.
-/

namespace Ferry.Json

/-- A blank between tokens: space, tab, line feed or carriage return. -/
def isBlank (byte : UInt8) : Bool :=
  byte = 0x20 || byte = 0x09 || byte = 0x0a || byte = 0x0d

/-- The input after leading blanks. -/
def skipBlanks (input : Bytes) : Bytes :=
  input.dropWhile isBlank

/-- What is written up to the closing quote; `taken` holds what stands before, reversed. -/
def textOnto (taken : Bytes) : Bytes → Option (Bytes × Bytes)
  | 0x22 :: rest => some (taken.reverse, rest)
  | 0x5c :: 0x75 :: a :: b :: c :: d :: rest =>
    match hexUnit? a b c d with
    | some _ => textOnto (d :: c :: b :: a :: 0x75 :: 0x5c :: taken) rest
    | none => none
  | 0x5c :: letter :: rest =>
    match escapes.lookup letter with
    | some _ => textOnto (letter :: 0x5c :: taken) rest
    | none => none
  | byte :: rest => if byte < 0x20 then none else textOnto (byte :: taken) rest
  | [] => none

/-- At least one digit, and what follows. -/
def digits (input : Bytes) : Option (Bytes × Bytes) :=
  match input.span isDigit with
  | ([], _) => none
  | found => some found

/-- The whole part of a number: a single 0, or digits that do not begin with one. -/
def wholePart (input : Bytes) : Option (Bytes × Bytes) := do
  let (whole, rest) ← digits input
  match whole with
  | 0x30 :: _ :: _ => none
  | _ => some (whole, rest)

/-- The fraction of a number, if there is one. -/
def fractionPart : Bytes → Option (Bytes × Bytes)
  | 0x2e :: rest => do
    let (places, rest) ← digits rest
    some (0x2e :: places, rest)
  | rest => some ([], rest)

/-- The exponent of a number, if there is one. -/
def exponentPart : Bytes → Option (Bytes × Bytes)
  | mark :: rest =>
    if mark = 0x65 || mark = 0x45 then
      match rest with
      | sign :: more =>
        if sign = 0x2b || sign = 0x2d then do
          let (places, rest) ← digits more
          some (mark :: sign :: places, rest)
        else do
          let (places, rest) ← digits rest
          some (mark :: places, rest)
      | [] => none
    else some ([], mark :: rest)
  | [] => some ([], [])

/-- A number without its sign. -/
def magnitude (input : Bytes) : Option (Bytes × Bytes) := do
  let (whole, rest) ← wholePart input
  let (fraction, rest) ← fractionPart rest
  let (exponent, rest) ← exponentPart rest
  some (whole ++ fraction ++ exponent, rest)

/-- A number as written. -/
def numeral : Bytes → Option (Bytes × Bytes)
  | 0x2d :: rest => do
    let (written, rest) ← magnitude rest
    some (0x2d :: written, rest)
  | input => magnitude input

/-- The input after the bytes of a word, if it begins with them. -/
def afterWord : (word : Bytes) → Bytes → Option Bytes
  | [], input => some input
  | byte :: word, next :: input => if byte = next then afterWord word input else none
  | _ :: _, [] => none

mutual

/-- A value at the front of the input. -/
def value : (fuel : Nat) → Bytes → Option (Json × Bytes)
  | 0, _ => none
  | fuel + 1, input =>
    match skipBlanks input with
    | [] => none
    | 0x22 :: rest => do
      let (written, rest) ← textOnto [] rest
      some (text written, rest)
    | 0x5b :: rest =>
      match skipBlanks rest with
      | 0x5d :: rest => some (array [], rest)
      | rest => elements fuel [] rest
    | 0x7b :: rest =>
      match skipBlanks rest with
      | 0x7d :: rest => some (object [], rest)
      | rest => members fuel [] rest
    | 0x74 :: rest => do
      let rest ← afterWord [0x72, 0x75, 0x65] rest
      some (bool true, rest)
    | 0x66 :: rest => do
      let rest ← afterWord [0x61, 0x6c, 0x73, 0x65] rest
      some (bool false, rest)
    | 0x6e :: rest => do
      let rest ← afterWord [0x75, 0x6c, 0x6c] rest
      some (null, rest)
    | input => do
      let (written, rest) ← numeral input
      some (number written, rest)

/-- The elements of an array up to its end; `read` holds those already read, last first. -/
def elements : (fuel : Nat) → (read : List Json) → Bytes → Option (Json × Bytes)
  | 0, _, _ => none
  | fuel + 1, read, input => do
    let (element, rest) ← value fuel input
    match skipBlanks rest with
    | 0x2c :: rest => elements fuel (element :: read) rest
    | 0x5d :: rest => some (array (element :: read).reverse, rest)
    | _ => none

/-- The members of an object up to its end; `read` holds those already read, last first. -/
def members : (fuel : Nat) → (read : List (Bytes × Json)) → Bytes → Option (Json × Bytes)
  | 0, _, _ => none
  | fuel + 1, read, input =>
    match skipBlanks input with
    | 0x22 :: rest => do
      let (name, rest) ← textOnto [] rest
      match skipBlanks rest with
      | 0x3a :: rest => do
        let (member, rest) ← value fuel rest
        match skipBlanks rest with
        | 0x2c :: rest => members fuel ((name, member) :: read) rest
        | 0x7d :: rest => some (object ((name, member) :: read).reverse, rest)
        | _ => none
      | _ => none
    | _ => none

end

/-- The document that a byte string holds, with blanks around it and nothing else. -/
def parse? (input : Bytes) : Option Json := do
  let (document, rest) ← value (2 * input.length + 1) input
  if (skipBlanks rest).isEmpty then some document else none

end Ferry.Json
