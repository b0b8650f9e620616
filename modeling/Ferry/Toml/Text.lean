import Ferry.Numeral
import Ferry.Toml.Basic

/-!
# Blanks, texts and keys

Texts in double quotes have escapes, texts in single quotes have none; three quotes
begin a text of several lines, which ends with the last three of a row of quotes. A line
break is a line feed, with or without a carriage return in front; in a text it is always
a line feed. A key is a row of names with dots between them.
-/

namespace Ferry.Toml

/-- A space or a tab. -/
def isBlank (character : Char) : Bool := character = ' ' || character = '\t'

/-- A character that may stand in texts and comments: no control character but the tab. -/
def isPlain (character : Char) : Bool :=
  character = '\t' || (' ' ≤ character && character ≠ '\x7f')

/-- What follows a line break. -/
def afterBreak? : List Char → Option (List Char)
  | '\n' :: rest => some rest
  | '\r' :: '\n' :: rest => some rest
  | _ => none

/-- What follows the blanks at the front. -/
def skipBlanks (input : List Char) : List Char := input.dropWhile isBlank

/-- What follows blanks, line breaks and comments; `comment` says whether the input begins
inside a comment. -/
def skipLines (comment : Bool) : List Char → List Char
  | '\n' :: rest => skipLines false rest
  | '\r' :: '\n' :: rest => skipLines false rest
  | '#' :: rest => skipLines true rest
  | character :: rest =>
    if isBlank character || (comment && isPlain character) then skipLines comment rest
    else character :: rest
  | [] => []

/-- What follows the end of a line, where only a comment may stand. -/
def endLine? (input : List Char) : Option (List Char) :=
  let rest := match skipBlanks input with
    | '#' :: rest => rest.dropWhile isPlain
    | rest => rest
  if rest.isEmpty then some [] else afterBreak? rest

/-! ## Texts -/

/-- The character that some hexadecimal digits number. -/
def scalar? (digits : List Char) : Option Char := do
  let code := Numeral.value 16 (← digits.mapM (Numeral.digit? 16))
  if code.isValidChar then some (Char.ofNat code) else none

/-- The character behind each escape of one letter. -/
def escapes : List (Char × Char) :=
  [('b', '\x08'), ('t', '\t'), ('n', '\n'), ('f', '\x0c'), ('r', '\r'), ('"', '"'), ('\\', '\\')]

/-- A text of one line with escapes, up to its closing quote; `taken` is what stands before,
last character first. -/
def escaped (taken : List Char) : List Char → Option (String × List Char)
  | '"' :: rest => some (String.ofList taken.reverse, rest)
  | '\\' :: 'u' :: a :: b :: c :: d :: rest => do
    escaped ((← scalar? [a, b, c, d]) :: taken) rest
  | '\\' :: 'U' :: a :: b :: c :: d :: e :: f :: g :: h :: rest => do
    escaped ((← scalar? [a, b, c, d, e, f, g, h]) :: taken) rest
  | '\\' :: letter :: rest => do escaped ((← escapes.lookup letter) :: taken) rest
  | character :: rest => if isPlain character then escaped (character :: taken) rest else none
  | [] => none

/-- A text of one line without escapes. -/
def verbatim (input : List Char) : Option (String × List Char) :=
  match input.span fun character => isPlain character && character ≠ '\'' with
  | (text, '\'' :: rest) => some (String.ofList text, rest)
  | _ => none

/-- A text of several lines with escapes, up to its closing quotes. A backslash at the end
of a line leaves out everything up to the next character that is not blank; `folding` says
whether the input begins in such a place. -/
def escapedLines (folding : Bool) (taken : List Char) : List Char → Option (String × List Char)
  | '"' :: '"' :: '"' :: '"' :: '"' :: rest =>
    some (String.ofList ('"' :: '"' :: taken).reverse, rest)
  | '"' :: '"' :: '"' :: '"' :: rest => some (String.ofList ('"' :: taken).reverse, rest)
  | '"' :: '"' :: '"' :: rest => some (String.ofList taken.reverse, rest)
  | '\n' :: rest => escapedLines folding (if folding then taken else '\n' :: taken) rest
  | '\r' :: '\n' :: rest => escapedLines folding (if folding then taken else '\n' :: taken) rest
  | '\\' :: 'u' :: a :: b :: c :: d :: rest => do
    escapedLines false ((← scalar? [a, b, c, d]) :: taken) rest
  | '\\' :: 'U' :: a :: b :: c :: d :: e :: f :: g :: h :: rest => do
    escapedLines false ((← scalar? [a, b, c, d, e, f, g, h]) :: taken) rest
  | '\\' :: letter :: rest =>
    match escapes.lookup letter with
    | some character => escapedLines false (character :: taken) rest
    | none =>
      if (afterBreak? (skipBlanks (letter :: rest))).isSome then
        escapedLines true taken (letter :: rest)
      else none
  | character :: rest =>
    if folding && isBlank character then escapedLines true taken rest
    else if isPlain character then escapedLines false (character :: taken) rest
    else none
  | [] => none

/-- A text of several lines without escapes, up to its closing quotes. -/
def verbatimLines (taken : List Char) : List Char → Option (String × List Char)
  | '\'' :: '\'' :: '\'' :: '\'' :: '\'' :: rest =>
    some (String.ofList ('\'' :: '\'' :: taken).reverse, rest)
  | '\'' :: '\'' :: '\'' :: '\'' :: rest => some (String.ofList ('\'' :: taken).reverse, rest)
  | '\'' :: '\'' :: '\'' :: rest => some (String.ofList taken.reverse, rest)
  | '\n' :: rest => verbatimLines ('\n' :: taken) rest
  | '\r' :: '\n' :: rest => verbatimLines ('\n' :: taken) rest
  | character :: rest => if isPlain character then verbatimLines (character :: taken) rest else none
  | [] => none

/-- What a text of several lines begins with: a line break right after the quotes is no
part of it. -/
def firstLine (input : List Char) : List Char := (afterBreak? input).getD input

/-- A text in quotes. -/
def text? : List Char → Option (String × List Char)
  | '"' :: '"' :: '"' :: rest => escapedLines false [] (firstLine rest)
  | '"' :: rest => escaped [] rest
  | '\'' :: '\'' :: '\'' :: rest => verbatimLines [] (firstLine rest)
  | '\'' :: rest => verbatim rest
  | _ => none

/-! ## Keys -/

/-- A character of a name without quotes. -/
def isBare (character : Char) : Bool :=
  character.isAlphanum || character = '-' || character = '_'

/-- A name: in quotes of one line, or bare. -/
def name? : List Char → Option (String × List Char)
  | '"' :: rest => escaped [] rest
  | '\'' :: rest => verbatim rest
  | input =>
    match input.span isBare with
    | ([], _) => none
    | (name, rest) => some (String.ofList name, rest)

/-- The largest number of names in a key, and of brackets and braces around a value. -/
def depthLimit : Nat := 79

/-- A key of at most `room` names, with blanks around each. -/
def key? : (room : Nat) → List Char → Option (Key × List Char)
  | 0, _ => none
  | room + 1, input => do
    let (name, rest) ← name? (skipBlanks input)
    match skipBlanks rest with
    | '.' :: rest => do
      let (key, rest) ← key? room rest
      some ({ key with path := name :: key.path }, rest)
    | rest => some (⟨[], name⟩, rest)

end Ferry.Toml
