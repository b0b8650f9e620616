import Ferry.Inspect.Packet
import Ferry.Palette.Table
import Ferry.Terrain

/-!
# Palettes as documents
-/

namespace Ferry

variable {ι : Type} [DecidableEq ι] [PaletteKind ι]

/-- A palette in one line: its kind, its size and its digest. -/
def Palette.summary (palette : Palette ι) : String :=
  s!"Palette<{PaletteKind.kindName ι}>({palette.size} entries, {Hex.encodePlain palette.digest})"

/-- A renumbering in one line. -/
def Renumbering.summary : Renumbering ι → String
  | .identity => "Equal"
  | .between client backend =>
    "Translate \x7b upstream: " ++ client.palette.summary ++
      ", downstream: " ++ backend.palette.summary ++ " \x7d"

instance [View ι] : View (PaletteEntry ι) where
  toDocument entry := .array [view entry.name, view entry.id]
  ofDocument? document := do some ⟨← document.at? 0, ← document.at? 1⟩

/-- The short name of a fault's kind. -/
def Terrain.Fault.kind : Terrain.Fault → String
  | .unknownVersion _ => "UnknownVersion"
  | .invalidBitsPerBlock _ => "InvalidBitsPerBlock"
  | .negativePaletteSize _ => "NegativePaletteSize"
  | .truncated _ => "Truncated"

instance : View Terrain.Fault where
  toDocument fault := failure fault.kind fault.message
  ofDocument? _ := none

end Ferry
