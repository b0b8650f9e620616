import Ferry.Toml.Number

/-!
# Reading TOML documents

Every line is empty, holds a key and a value, or is a header in single or double brackets.
Every line takes at least one character and every part of a value at least one for two
steps, so the lengths that are passed on are enough fuel; nesting is bounded separately.
-/

namespace Ferry.Toml

/-- What follows the characters of a word. -/
def afterWord? : (word : List Char) → List Char → Option (List Char)
  | [], input => some input
  | character :: word, input => do afterWord? word (← after? character input)

/-- A value that is no array and no table. -/
def single? (input : List Char) : Option (Value × List Char) :=
  match input.head? with
  | some '"' => do
    let (text, rest) ← text? input
    some (.text text, rest)
  | some '\'' => do
    let (text, rest) ← text? input
    some (.text text, rest)
  | some 't' => do some (.boolean true, ← afterWord? "true".toList input)
  | some 'f' => do some (.boolean false, ← afterWord? "false".toList input)
  | _ =>
    match moment? input with
    | some found => some found
    | none => number? input

mutual

/-- A value with at most `room` brackets and braces around its parts. -/
def value? (room : Nat) : (fuel : Nat) → List Char → Option (Value × List Char)
  | 0, _ => none
  | fuel + 1, input =>
    match input with
    | '[' :: rest => if room = 0 then none else elements? (room - 1) fuel [] rest
    | '\x7b' :: rest =>
      if room = 0 then none
      else
        match skipBlanks rest with
        | '\x7d' :: rest => some (.table .braced [], rest)
        | rest => members? (room - 1) fuel [] rest
    | input => single? input

/-- The elements of an array up to its end, with a comma after each but the last, where it
may be missing; `read` holds those already read, last first. -/
def elements? (room : Nat) : (fuel : Nat) → (read : List Value) → List Char →
    Option (Value × List Char)
  | 0, _, _ => none
  | fuel + 1, read, input =>
    match skipLines false input with
    | ']' :: rest => some (.array read.reverse, rest)
    | input => do
      let (element, rest) ← value? room fuel input
      match skipLines false rest with
      | ',' :: rest => elements? room fuel (element :: read) rest
      | ']' :: rest => some (.array (element :: read).reverse, rest)
      | _ => none

/-- The members of a table in braces up to its end, with a comma between each two. -/
def members? (room : Nat) : (fuel : Nat) → (read : Entries) → List Char →
    Option (Value × List Char)
  | 0, _, _ => none
  | fuel + 1, read, input => do
    let (key, rest) ← key? depthLimit input
    let rest ← after? '=' rest
    let (value, rest) ← value? room fuel (skipBlanks rest)
    let read ← Entries.addDotted key.name value key.path read
    match skipBlanks rest with
    | ',' :: rest => members? room fuel read rest
    | '\x7d' :: rest => some (.table .braced read, rest)
    | _ => none

end

/-- A line that is not empty, without its end. -/
def statement? (draft : Draft) : List Char → Option (Draft × List Char)
  | '[' :: '[' :: rest => do
    let (key, rest) ← key? depthLimit rest
    some (← draft.startElement key, ← after? ']' (← after? ']' rest))
  | '[' :: rest => do
    let (key, rest) ← key? depthLimit rest
    some (← draft.startTable key, ← after? ']' rest)
  | input => do
    let (key, rest) ← key? depthLimit input
    let rest ← after? '=' rest
    let (value, rest) ← value? depthLimit (2 * rest.length + 1) (skipBlanks rest)
    some (← draft.add key value, rest)

/-- All lines. -/
def lines? : (fuel : Nat) → Draft → List Char → Option Draft
  | 0, _, _ => none
  | fuel + 1, draft, input =>
    match skipLines false input with
    | [] => some draft
    | input => do
      let (draft, rest) ← statement? draft input
      lines? fuel draft (← endLine? rest)

/-- The table that a document stands for. -/
def parse? (document : String) : Option Entries := do
  let input := match document.toList with
    | '\ufeff' :: rest => rest
    | input => input
  let draft ← lines? (input.length + 1) Draft.empty input
  some draft.entries

end Ferry.Toml
