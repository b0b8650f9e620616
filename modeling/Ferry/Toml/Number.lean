import Ferry.Toml.Text

/-!
# Numbers, dates and times

Whole numbers have 64 bits. Digits may have single underscores between them, and a number
in base ten has no leading zeros. A number with a fraction or an exponent must not be
larger than every number of double precision. Dates and times are those of RFC 3339, where
the offset, the date or the time may be missing.
-/

namespace Ferry.Toml

/-- What stands between two ends of the input. -/
def between (input rest : List Char) : String :=
  String.ofList (input.take (input.length - rest.length))

/-! ## Whole numbers -/

/-- More digits, with at most one underscore in front of each. -/
def moreDigits (base : Nat) : List Char → List Nat × List Char
  | '_' :: character :: rest =>
    match Numeral.digit? base character with
    | some digit =>
      let (digits, rest) := moreDigits base rest
      (digit :: digits, rest)
    | none => ([], '_' :: character :: rest)
  | character :: rest =>
    match Numeral.digit? base character with
    | some digit =>
      let (digits, rest) := moreDigits base rest
      (digit :: digits, rest)
    | none => ([], character :: rest)
  | [] => ([], [])

/-- At least one digit. -/
def digits? (base : Nat) : List Char → Option (List Nat × List Char)
  | character :: rest => do
    let first ← Numeral.digit? base character
    let (digits, rest) := moreDigits base rest
    some (first :: digits, rest)
  | [] => none

/-- The whole part of a number in base ten: a single 0, or digits that do not begin with
one. -/
def wholePart? : List Char → Option (List Nat × List Char)
  | '0' :: rest => some ([0], rest)
  | input => digits? 10 input

/-- Whether a number is negative, and what follows its sign. -/
def sign : List Char → Bool × List Char
  | '-' :: rest => (true, rest)
  | '+' :: rest => (false, rest)
  | rest => (false, rest)

/-- A whole number, if it has at most 64 bits. -/
def integer? (value : Int) : Option Value :=
  if Int64.minValue.toInt ≤ value && value ≤ Int64.maxValue.toInt then some (.integer value)
  else none

/-- A whole number in a base that is written in front of it. -/
def based? (base : Nat) (input : List Char) : Option (Value × List Char) := do
  let (digits, rest) ← digits? base input
  some (← integer? (Numeral.value base digits), rest)

/-! ## Other numbers -/

/-- Whether `digits` with the point moved by `exponent` places are above every number of
double precision, where half the step above the largest one is above already. -/
def isTooLarge (digits : List Nat) (exponent : Int) : Bool :=
  let significand := Numeral.value 10 digits
  let limit := 1 <<< 1024 - 1 <<< 970
  let places := (digits.dropWhile (· = 0)).length + exponent
  if significand = 0 || places < 300 then false
  else if 400 < places then true
  else limit * Nat.pow 10 (-exponent).toNat ≤ significand * Nat.pow 10 exponent.toNat

/-- The fraction of a number, none where there is no point. -/
def fraction? : List Char → Option (List Nat × List Char)
  | '.' :: rest => digits? 10 rest
  | rest => some ([], rest)

/-- The exponent of a number, 0 where there is none. -/
def exponent? : List Char → Option (Int × List Char)
  | mark :: rest =>
    if mark = 'e' || mark = 'E' then do
      let (negative, rest) := sign rest
      let (digits, rest) ← digits? 10 rest
      let size : Int := Numeral.value 10 digits
      some (if negative then -size else size, rest)
    else some (0, mark :: rest)
  | [] => some (0, [])

/-- A number in base ten without its sign. -/
def decimal? (input : List Char) (negative : Bool) (unsigned : List Char) :
    Option (Value × List Char) := do
  let (whole, afterWhole) ← wholePart? unsigned
  let (fraction, rest) ← fraction? afterWhole
  let (exponent, rest) ← exponent? rest
  if rest.length = afterWhole.length then
    let size : Int := Numeral.value 10 whole
    some (← integer? (if negative then -size else size), rest)
  else if !negative && isTooLarge (whole ++ fraction) (exponent - fraction.length) then none
  else some (.float (between input rest), rest)

/-- A number. -/
def number? (input : List Char) : Option (Value × List Char) :=
  match input with
  | '0' :: 'x' :: rest => based? 16 rest
  | '0' :: 'o' :: rest => based? 8 rest
  | '0' :: 'b' :: rest => based? 2 rest
  | input =>
    let (negative, unsigned) := sign input
    match unsigned with
    | 'i' :: 'n' :: 'f' :: rest => some (.float (between input rest), rest)
    | 'n' :: 'a' :: 'n' :: rest => some (.float (between input rest), rest)
    | unsigned => decimal? input negative unsigned

/-! ## Dates and times -/

/-- A number of exactly `count` digits within bounds. -/
def field? (count low high : Nat) (input : List Char) : Option (Nat × List Char) := do
  let digits ← (input.take count).mapM (Numeral.digit? 10)
  let value := Numeral.value 10 digits
  if digits.length = count && low ≤ value && value ≤ high then some (value, input.drop count)
  else none

/-- What follows a character. -/
def after? (expected : Char) : List Char → Option (List Char)
  | character :: rest => if character = expected then some rest else none
  | [] => none

/-- The number of days in a month. -/
def daysIn (year month : Nat) : Nat :=
  if month = 2 then
    if year % 4 = 0 && (year % 100 ≠ 0 || year % 400 = 0) then 29 else 28
  else if month = 4 || month = 6 || month = 9 || month = 11 then 30
  else 31

/-- What follows a date. -/
def afterDate? (input : List Char) : Option (List Char) := do
  let (year, rest) ← field? 4 0 9999 input
  let (month, rest) ← field? 2 1 12 (← after? '-' rest)
  let (_, rest) ← field? 2 1 (daysIn year month) (← after? '-' rest)
  some rest

/-- What follows the fraction of a second, which may be missing. -/
def afterSecondFraction : List Char → List Char
  | '.' :: rest =>
    match Numeral.leading 10 rest with
    | ([], _) => '.' :: rest
    | (_, rest) => rest
  | rest => rest

/-- What follows a time of the day; a minute may have a leap second. -/
def afterTime? (input : List Char) : Option (List Char) := do
  let (_, rest) ← field? 2 0 23 input
  let (_, rest) ← field? 2 0 59 (← after? ':' rest)
  let (_, rest) ← field? 2 0 60 (← after? ':' rest)
  some (afterSecondFraction rest)

/-- What follows an offset from universal time, which may be missing. -/
def afterOffset? : List Char → Option (List Char)
  | 'Z' :: rest => some rest
  | 'z' :: rest => some rest
  | mark :: rest =>
    if mark = '+' || mark = '-' then do
      let (_, rest) ← field? 2 0 23 rest
      let (_, rest) ← field? 2 0 59 (← after? ':' rest)
      some rest
    else some (mark :: rest)
  | [] => some []

/-- What follows the time after a date. Where no time follows, neither does the character
in front of it belong to the date. -/
def afterDateTime? : List Char → Option (List Char)
  | mark :: rest =>
    if mark = 'T' || mark = 't' || mark = ' ' then
      match afterTime? rest with
      | some rest => afterOffset? rest
      | none => some (mark :: rest)
    else some (mark :: rest)
  | [] => some []

/-- A date, a time or both. -/
def moment? (input : List Char) : Option (Value × List Char) := do
  let rest ← match afterDate? input with
    | some rest => afterDateTime? rest
    | none => afterTime? input
  some (.moment (between input rest), rest)

end Ferry.Toml
