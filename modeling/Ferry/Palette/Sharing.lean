import Ferry.Palette.Basic

/-!
# Shared palettes and the renumbering between two of them

Servers with equal palettes share one. A `SharedPalette` is a palette together with
the number of its instance, and a `PaletteRegistry` gives out one instance for each
digest. Between two servers with the same instance nothing is renumbered; otherwise a
number is renumbered through the name that it has.

The client keeps the palette of the server it joined first for as long as it is
connected, so the two sides of a renumbering are the client's and the backend's.
-/

namespace Ferry

/-- A palette that several servers may share. -/
structure SharedPalette (ι : Type) where
  /-- The number of the instance. -/
  serial : Nat
  palette : Palette ι

namespace SharedPalette

variable {ι : Type} [DecidableEq ι] [PaletteKind ι]

/-- Whether two servers share one instance. -/
def sameInstance (left right : SharedPalette ι) : Bool :=
  left.serial = right.serial

end SharedPalette

/-- The instances given out so far, one for each digest. -/
structure PaletteRegistry (ι : Type) where
  instances : List (SharedPalette ι)

namespace PaletteRegistry

variable {ι : Type} [DecidableEq ι] [PaletteKind ι]

/-- No instances yet. -/
def empty : PaletteRegistry ι := ⟨[]⟩

/-- The instance with the digest of `candidate`, which becomes that instance if there
is none yet. -/
def intern (registry : PaletteRegistry ι) (candidate : SharedPalette ι) :
    SharedPalette ι × PaletteRegistry ι :=
  let digest := candidate.palette.digest
  match registry.instances.find? fun held => held.palette.digest = digest with
  | some held => (held, registry)
  | none => (candidate, ⟨registry.instances ++ [candidate]⟩)

/-- How many instances there are. -/
def size (registry : PaletteRegistry ι) : Nat := registry.instances.length

/-- The instance with the digest of a palette. A registry that gives out all its instances
in this way numbers them in their order. -/
def share (registry : PaletteRegistry ι) (palette : Palette ι) :
    SharedPalette ι × PaletteRegistry ι :=
  registry.intern ⟨registry.size, palette⟩

end PaletteRegistry

/-- How numbers are renumbered between the client and a backend. -/
inductive Renumbering (ι : Type) where
  /-- Both sides use the same palette. -/
  | identity
  /-- A number is renumbered through its name. -/
  | between (client backend : SharedPalette ι)

namespace Renumbering

variable {ι : Type} [DecidableEq ι] [PaletteKind ι]

/-- The renumbering between the palettes of a client and a backend. -/
def ofPalettes (client backend : SharedPalette ι) : Renumbering ι :=
  if client.sameInstance backend then identity else between client backend

/-- Whether nothing is renumbered. -/
def isIdentity : Renumbering ι → Bool
  | identity => true
  | between _ _ => false

/-- The number that `target` has for the name of a number of `source`. -/
def through (source target : Palette ι) (id : ι) : ι :=
  match source.nameOf? id >>= target.idOf? with
  | some renumbered => renumbered
  | none => PaletteKind.substitute target.idOf? id

/-- The client's number for a number of the backend. -/
def toClient (renumbering : Renumbering ι) (id : ι) : ι :=
  match renumbering with
  | identity => id
  | between client backend => through backend.palette client.palette id

/-- The backend's number for a number of the client. -/
def toBackend (renumbering : Renumbering ι) (id : ι) : ι :=
  match renumbering with
  | identity => id
  | between client backend => through client.palette backend.palette id

end Renumbering

end Ferry
