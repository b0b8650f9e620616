/-!
# Digits

What a text in some base up to 16 stands for. Letters count as digits in either case.
-/

namespace Ferry.Numeral

/-- What a character stands for among the sixteen digits. -/
def symbol? (character : Char) : Option Nat :=
  if '0' ≤ character && character ≤ '9' then some (character.toNat - '0'.toNat)
  else if 'a' ≤ character && character ≤ 'f' then some (character.toNat - 'a'.toNat + 10)
  else if 'A' ≤ character && character ≤ 'F' then some (character.toNat - 'A'.toNat + 10)
  else none

/-- What a character counts as a digit of a base. -/
def digit? (base : Nat) (character : Char) : Option Nat :=
  (symbol? character).filter (· < base)

/-- The leading digits of a text, and what follows. -/
def leading (base : Nat) : List Char → List Nat × List Char
  | [] => ([], [])
  | character :: rest =>
    match digit? base character with
    | some value =>
      let (values, rest) := leading base rest
      (value :: values, rest)
    | none => ([], character :: rest)

/-- The number that digits stand for, most significant first. -/
def value (base : Nat) (digits : List Nat) : Nat :=
  digits.foldl (fun total digit => total * base + digit) 0

end Ferry.Numeral
