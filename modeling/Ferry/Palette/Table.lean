import Ferry.Json.Parser
import Ferry.Palette.Basic

/-!
# Palettes in files

A palette file is a JSON array. An entry is an object with a name and a number, or
an array of just these two. Members of other names are passed over, but a name or a
number given twice is refused.
-/

namespace Ferry.Palette

variable {ι : Type} [DecidableEq ι] [PaletteKind ι]

/-- How the number of an entry is read: the integers that fit. -/
class TableId (ι : Type) where
  ofInt? : Int → Option ι

instance : TableId BlockId where
  ofInt? value := if 0 ≤ value ∧ value < UInt32.size then some (UInt32.ofInt value) else none

instance : TableId ItemId where
  ofInt? value :=
    if Int32.minValue.toInt ≤ value ∧ value ≤ Int32.maxValue.toInt then some (Int32.ofInt value)
    else none

variable [TableId ι]

/-- The number of an entry. -/
def readId? (document : Json) : Option ι :=
  document.toInt? >>= TableId.ofInt?

/-- The members of an entry, given those already met. -/
def readMembers? (name : Option String) (id : Option ι) :
    List (Bytes × Json) → Option (PaletteEntry ι)
  | [] => do some ⟨← name, ← id⟩
  | (written, value) :: members => do
    match ← Json.unescape? written with
    | "name" =>
      if name.isSome then none else readMembers? (some (← value.toString?)) id members
    | "id" => if id.isSome then none else readMembers? name (some (← readId? value)) members
    | _ => readMembers? name id members

/-- One entry of a file. -/
def readEntry? : Json → Option (PaletteEntry ι)
  | .object members => readMembers? none none members
  | .array [name, id] => do some ⟨← name.toString?, ← readId? id⟩
  | _ => none

/-- The palette of a file. -/
def ofFile? (contents : Bytes) : Option (Palette ι) := do
  let document ← Json.parse? contents
  let elements ← document.elements?
  some (ofEntries (← elements.mapM readEntry?))

end Ferry.Palette
