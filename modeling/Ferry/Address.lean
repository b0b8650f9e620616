import Ferry.Numeral

/-!
# Addresses

An address is an IP address and the number of a listener. IPv4 addresses are written as
four decimal numbers without leading zeros; IPv6 addresses as hexadecimal groups in
brackets, where `::` stands for the longest run of zero groups, and with the number of
their scope where there is one.
`Address.ofString?` reads every way to write an address, `toString` writes the shortest.
-/

namespace Ferry

/-- An IP address. -/
inductive Host where
  | v4 (a b c d : UInt8)
  /-- Eight groups, and the number of the scope or 0. -/
  | v6 (groups : List UInt16) (scope : UInt32)
  deriving DecidableEq, Repr

/-- Where something listens. -/
structure Address where
  host : Host
  /-- The number of the listener on the host. -/
  listener : UInt16
  deriving DecidableEq, Repr

namespace Address

/-- A listener that only the machine itself can reach. -/
def loopback (listener : UInt16) : Address := ⟨.v4 127 0 0 1, listener⟩

/-- A listener on every address of the machine. -/
def everywhere (listener : UInt16) : Address := ⟨.v4 0 0 0 0, listener⟩

/-! ## Reading -/

/-- A decimal number below a bound, with as many leading zeros as one likes. -/
def number? (bound : Nat) (text : List Char) : Option (Nat × List Char) :=
  let (values, rest) := Numeral.leading 10 text
  let value := Numeral.value 10 values
  if values.isEmpty || bound ≤ value then none else some (value, rest)

/-- A part of an IPv4 address: at most three digits, without leading zeros. -/
def octet? (text : List Char) : Option (UInt8 × List Char) :=
  let (values, rest) := Numeral.leading 10 text
  let value := Numeral.value 10 values
  let leadingZero := values.head? = some 0 && 1 < values.length
  if values.isEmpty || 3 < values.length || leadingZero || 256 ≤ value then none
  else some (UInt8.ofNat value, rest)

/-- A part of an IPv6 address: at most four hexadecimal digits. -/
def group? (text : List Char) : Option (UInt16 × List Char) :=
  let (values, rest) := Numeral.leading 16 text
  if values.isEmpty || 4 < values.length then none
  else some (UInt16.ofNat (Numeral.value 16 values), rest)

/-- What follows a character. -/
def after? (expected : Char) : List Char → Option (List Char)
  | character :: rest => if character = expected then some rest else none
  | [] => none

/-- The four parts of an IPv4 address. -/
def octets? (text : List Char) : Option ((UInt8 × UInt8 × UInt8 × UInt8) × List Char) := do
  let (a, rest) ← octet? text
  let (b, rest) ← octet? (← after? '.' rest)
  let (c, rest) ← octet? (← after? '.' rest)
  let (d, rest) ← octet? (← after? '.' rest)
  some ((a, b, c, d), rest)

/-- Two parts of an IPv4 address as one group. -/
def join (high low : UInt8) : UInt16 := UInt16.ofNat (high.toNat * 256 + low.toNat)

/-- A separating colon, except in front of the first group. -/
def separator? (first : Bool) (text : List Char) : Option (List Char) :=
  if first then some text else after? ':' text

/-- At most `room` groups in a row; the last two may be written as an IPv4 address. Says also
whether they were. -/
def groups (first : Bool) : (room : Nat) → List Char → List UInt16 × Bool × List Char
  | 0, text => ([], false, text)
  | room + 1, text =>
    let embedded := if room = 0 then none else separator? first text >>= octets?
    match embedded with
    | some ((a, b, c, d), rest) => ([join a b, join c d], true, rest)
    | none =>
      match separator? first text >>= group? with
      | some (group, rest) =>
        let (more, embedded, rest) := groups false room rest
        (group :: more, embedded, rest)
      | none => ([], false, text)

/-- The eight groups of an IPv6 address; `::` stands for at least one zero group. -/
def allGroups? (text : List Char) : Option (List UInt16 × List Char) :=
  let (front, embedded, rest) := groups true 8 text
  if front.length = 8 then some (front, rest)
  else if embedded then none
  else do
    let rest ← after? ':' rest
    let rest ← after? ':' rest
    let (back, _, rest) := groups true (7 - front.length) rest
    let gap := List.replicate (8 - front.length - back.length) 0
    some (front ++ gap ++ back, rest)

/-- The number of a scope, 0 where there is none. -/
def scope? (text : List Char) : Option (UInt32 × List Char) :=
  match text with
  | '%' :: rest => do
    let (scope, rest) ← number? UInt32.size rest
    some (UInt32.ofNat scope, rest)
  | rest => some (0, rest)

/-- Reads a host up to the colon in front of the listener. -/
def host? (text : List Char) : Option (Host × List Char) :=
  match text with
  | '[' :: rest => do
    let (groups, rest) ← allGroups? rest
    let (scope, rest) ← scope? rest
    some (.v6 groups scope, ← after? ']' rest)
  | rest => do
    let ((a, b, c, d), rest) ← octets? rest
    some (.v4 a b c d, rest)

/-- The address that a text stands for. -/
def ofString? (text : String) : Option Address := do
  let (host, rest) ← host? text.toList
  let (listener, rest) ← number? UInt16.size (← after? ':' rest)
  if rest.isEmpty then some ⟨host, UInt16.ofNat listener⟩ else none

/-! ## Writing -/

/-- Where the first longest run of zero groups begins and how long it is, among the groups
from `index` on; `opened` is how long the run is that ends just before them. -/
def longestZeros (index opened : Nat) (best : Nat × Nat) : List UInt16 → Nat × Nat
  | [] => best
  | group :: groups =>
    if group = 0 then
      let best := if best.2 < opened + 1 then (index - opened, opened + 1) else best
      longestZeros (index + 1) (opened + 1) best groups
    else longestZeros (index + 1) 0 best groups

/-- A group in hexadecimal digits. -/
def groupText (group : UInt16) : String := String.ofList (Nat.toDigits 16 group.toNat)

/-- Groups with colons between them. -/
def groupsText (groups : List UInt16) : String := ":".intercalate (groups.map groupText)

/-- An IPv4 address. -/
def octetsText (a b c d : UInt8) : String := s!"{a.toNat}.{b.toNat}.{c.toNat}.{d.toNat}"

/-- The eight groups of an IPv6 address. An IPv4 address mapped into IPv6 keeps its form. -/
def allGroupsText (groups : List UInt16) : String :=
  match groups with
  | [0, 0, 0, 0, 0, 0xffff, high, low] =>
    let part (group : UInt16) : UInt8 × UInt8 :=
      (UInt8.ofNat (group.toNat / 256), UInt8.ofNat group.toNat)
    "::ffff:" ++ octetsText (part high).1 (part high).2 (part low).1 (part low).2
  | groups =>
    let (first, length) := longestZeros 0 0 (0, 0) groups
    if 1 < length then
      groupsText (groups.take first) ++ "::" ++ groupsText (groups.drop (first + length))
    else groupsText groups

/-- A host as it stands in front of the listener. -/
def hostText : Host → String
  | .v4 a b c d => octetsText a b c d
  | .v6 groups scope =>
    let scopeText := if scope = 0 then "" else s!"%{scope.toNat}"
    s!"[{allGroupsText groups}{scopeText}]"

instance : ToString Address where
  toString address := s!"{hostText address.host}:{address.listener.toNat}"

end Address

end Ferry
