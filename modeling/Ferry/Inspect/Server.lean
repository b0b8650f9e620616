import Ferry.Inspect.Palette
import Ferry.Server

/-!
# Servers as documents

A document lists palette tables under keys and servers that name these keys. Servers that
name the same key share one palette; servers that name none share an empty one.
-/

namespace Ferry

/-- The palettes of a document, by key. Where equal tables are to be shared, they all go
through one registry. -/
def sharedPalettes {ι : Type} [DecidableEq ι] [PaletteKind ι] [View ι] (shared : Bool)
    (tables : List (String × Json)) : Option (List (String × SharedPalette ι)) := do
  let palettes ← tables.zipIdx.mapM fun ((key, table), index) => do
    let palette : SharedPalette ι := ⟨index + 1, Palette.ofEntries (← table.as?)⟩
    some (key, palette)
  let step (seen : List (String × SharedPalette ι) × PaletteRegistry ι)
      (entry : String × SharedPalette ι) : List (String × SharedPalette ι) × PaletteRegistry ι :=
    let (palette, registry) := seen.2.intern entry.2
    (seen.1 ++ [(entry.1, palette)], registry)
  some (if shared then (palettes.foldl step ([], PaletteRegistry.empty)).1 else palettes)

/-- The palette under the key that a server names. -/
def paletteUnder {ι : Type} [DecidableEq ι] [PaletteKind ι]
    (palettes : List (String × SharedPalette ι)) : Option String → Option (SharedPalette ι)
  | some key => palettes.lookup key
  | none => some ⟨0, Palette.empty⟩

/-- The servers of a document. -/
def Servers.ofDocument? (document : Json) : Option (List Server) := do
  let shared ← document.getOr "intern" false
  let tables (name : String) : Option (List (String × Json)) :=
    match document.member? name with
    | some tables => tables.members?
    | none => some []
  let blocks ← sharedPalettes shared (← tables "blocks")
  let items ← sharedPalettes shared (← tables "items")
  let servers : List Json ← document.getOr "servers" []
  servers.mapM fun server => do
    some { name := ← server.get? "name"
           address := Address.loopback (← server.getOr "port" 19132)
           blocks := ← paletteUnder blocks (← server.get? "blocks")
           items := ← paletteUnder items (← server.get? "items") }

/-- A server in one line. -/
def Server.summary (server : Server) : String :=
  s!"ServerInfo \x7b name: \"{server.name}\", address: {server.address}, .. \x7d"

end Ferry
