/-!
# TOML documents

A document is a table of values. Tables come about in four ways, and how a table came
about decides what may still be added to it: a header may add to a table that was only
implied so far, a dotted key only to tables that dotted keys of the same table made, and
nothing is ever added to a table in braces. No name is given twice.
-/

namespace Ferry.Toml

/-- How a table came about. -/
inductive TableForm where
  /-- Written in braces. -/
  | braced
  /-- Under a header of its own. -/
  | headed
  /-- Passed by the header of another table. -/
  | implied
  /-- Passed by a dotted key. -/
  | dotted
  deriving DecidableEq, Repr

/-- What stands under a name. -/
inductive Value where
  | text (value : String)
  | integer (value : Int)
  /-- A number with a fraction or an exponent, or one that is not finite, as written. -/
  | float (written : String)
  | boolean (value : Bool)
  /-- A date, a time or both, as written. -/
  | moment (written : String)
  | array (elements : List Value)
  | table (form : TableForm) (entries : List (String × Value))
  /-- The tables under a header in double brackets, oldest first. -/
  | tables (elements : List (List (String × Value)))
  deriving Inhabited

/-- What a table holds, in the order in which it was given. -/
abbrev Entries := List (String × Value)

/-- Where a key leads: through some tables to a name. -/
structure Key where
  path : List String
  name : String
  deriving DecidableEq, Repr

namespace Entries

/-- Replaces what stands under a name, or adds what is to stand there. -/
def alter (name : String) (change : Option Value → Option Value) : Entries → Option Entries
  | [] => do some [(name, ← change none)]
  | (other, value) :: rest =>
    if other = name then do some ((other, ← change (some value)) :: rest)
    else do some ((other, value) :: (← alter name change rest))

/-- Changes the last of several tables. -/
def alterLast (change : Entries → Option Entries) (tables : List Entries) :
    Option (List Entries) := do
  some (tables.dropLast ++ [← change (← tables.getLast?)])

/-- Adds a value under a new name. -/
def add (name : String) (value : Value) : Entries → Option Entries :=
  alter name fun
    | none => some value
    | some _ => none

/-- Adds a value where a dotted key leads. The table with the name must have been made by
a dotted key; on the way to it the key may pass what headers have implied. -/
def addDotted (name : String) (value : Value) : (path : List String) → Entries → Option Entries
  | [] => add name value
  | step :: path => alter step fun
    | none => do some (.table .dotted (← addDotted name value path []))
    | some (.table .dotted inner) => do some (.table .dotted (← addDotted name value path inner))
    | some (.table .implied inner) =>
      if path.isEmpty then none
      else do some (.table .implied (← addDotted name value path inner))
    | some (.tables elements) =>
      if path.isEmpty then none
      else do some (.tables (← alterLast (addDotted name value path) elements))
    | some _ => none

/-- Changes the table that the path of a header leads to. Of several tables under one
header the last is meant. -/
def within (change : Entries → Option Entries) : (path : List String) → Entries → Option Entries
  | [] => change
  | step :: path => alter step fun
    | none => do some (.table .implied (← within change path []))
    | some (.table .braced _) => none
    | some (.table form inner) => do some (.table form (← within change path inner))
    | some (.tables elements) => do some (.tables (← alterLast (within change path) elements))
    | some _ => none

/-- Opens a table under a header of its own. -/
def openTable (name : String) : Entries → Option Entries :=
  alter name fun
    | none => some (.table .headed [])
    | some (.table .implied inner) => some (.table .headed inner)
    | some _ => none

/-- Opens one more table under a header in double brackets. -/
def openElement (name : String) : Entries → Option Entries :=
  alter name fun
    | none => some (.tables [[]])
    | some (.tables elements) => some (.tables (elements ++ [[]]))
    | some _ => none

end Entries

/-- A document that is being read. -/
structure Draft where
  entries : Entries
  /-- The header under which keys are added, nothing before the first one. -/
  header : List String

namespace Draft

/-- A document without any line. -/
def empty : Draft := ⟨[], []⟩

/-- Adds a value under the current header. -/
def add (draft : Draft) (key : Key) (value : Value) : Option Draft := do
  let entries ← Entries.within (Entries.addDotted key.name value key.path) draft.header
    draft.entries
  some { draft with entries := entries }

/-- Goes on under another header. -/
def startTable (draft : Draft) (key : Key) : Option Draft := do
  let entries ← Entries.within (Entries.openTable key.name) key.path draft.entries
  some ⟨entries, key.path ++ [key.name]⟩

/-- Goes on under another header in double brackets. -/
def startElement (draft : Draft) (key : Key) : Option Draft := do
  let entries ← Entries.within (Entries.openElement key.name) key.path draft.entries
  some ⟨entries, key.path ++ [key.name]⟩

end Draft

end Ferry.Toml
