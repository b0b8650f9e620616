import Ferry.Config.Document
import Ferry.Palette.Table
import Ferry.Server

/-!
# Loading the servers of a configuration

The palettes of the servers are in files, whose paths are relative to the directory of
the configuration. Servers with equal palettes share one instance, and so do all servers
without an item palette. Files are read by a function that is passed in, so that loading
is a function of what the files hold.
-/

namespace Ferry

/-- Why a file cannot be read. -/
inductive FileFault where
  | missing
  /-- It can be opened, but holds no text or nothing that can be read. -/
  | unreadable
  deriving DecidableEq, Repr

/-- What an operator reads about a file. -/
def FileFault.message (path : String) : FileFault → String
  | .missing => s!"failed to open file `{path}`"
  | .unreadable => s!"failed to read from file `{path}`"

/-- A way to read files. -/
abbrev ReadFile := String → Except FileFault Bytes

/-- Why servers cannot be loaded. -/
inductive LoadError where
  | file (fault : FileFault) (path : String)
  | invalidPalette (path : String)
  | invalidConfig (path : String) (cause : ConfigError)
  /-- The configuration refers to a server that is not there. -/
  | config (cause : ConfigError)
  deriving DecidableEq, Repr

/-- What an operator reads about servers that cannot be loaded, without the cause. -/
def LoadError.message : LoadError → String
  | .file fault path => fault.message path
  | .invalidPalette path => s!"invalid palette {path}"
  | .invalidConfig path _ => s!"invalid configuration in {path}"
  | .config cause => cause.message

/-- A path below a directory, unless the path begins at the root. -/
def joinPath (base path : String) : String :=
  if path.startsWith "/" || base.isEmpty then path
  else if base.endsWith "/" then base ++ path
  else base ++ "/" ++ path

/-- The servers of a configuration, with their palettes. -/
structure Servers where
  all : List Server
  initial : Server
  /-- The servers to try, in order, when one is lost. -/
  fallback : List Server

/-- The configuration in a file. -/
def ProxyConfig.load (read : ReadFile) (path : String) : Except LoadError ProxyConfig := do
  let contents ← (read path).mapError fun fault => .file fault path
  match String.fromUTF8? (Bytes.pack contents) with
  | none => .error (.file .unreadable path)
  | some text => (ProxyConfig.parse text).mapError (.invalidConfig path)

namespace Servers

/-- The server of a name. -/
def get? (servers : Servers) (name : String) : Option Server :=
  Server.named? servers.all name

/-- The palette in a file. -/
def loadPalette {ι : Type} [DecidableEq ι] [PaletteKind ι] [Palette.TableId ι] (read : ReadFile)
    (path : String) : Except LoadError (Palette ι) := do
  let contents ← (read path).mapError fun fault => .file fault path
  match Palette.ofFile? contents with
  | some palette => .ok palette
  | none => .error (.invalidPalette path)

/-- The servers loaded so far, with the instances given out to them. -/
structure Loading where
  blocks : PaletteRegistry BlockId
  items : PaletteRegistry ItemId
  servers : List Server

/-- No server is loaded; the empty item palette is there already. -/
def Loading.start : Loading :=
  ⟨PaletteRegistry.empty, (PaletteRegistry.empty.share Palette.empty).2, []⟩

/-- Loads one more server. -/
def Loading.add (read : ReadFile) (base : String) (loading : Loading) (server : ServerConfig) :
    Except LoadError Loading := do
  let blocks : Palette BlockId ← loadPalette read (joinPath base server.blockPalette)
  let items : Palette ItemId ← match server.itemPalette with
    | some path => loadPalette read (joinPath base path)
    | none => .ok Palette.empty
  let (blocks, blockRegistry) := loading.blocks.share blocks
  let (items, itemRegistry) := loading.items.share items
  .ok ⟨blockRegistry, itemRegistry,
    loading.servers ++ [⟨server.name, server.address, blocks, items⟩]⟩

/-- A server that the configuration refers to. -/
def named (servers : List Server) (name : String) : Except LoadError Server :=
  match Server.named? servers name with
  | some server => .ok server
  | none => .error (.config (.unknownServer name))

/-- The servers of a configuration whose files are below a directory. -/
def load (read : ReadFile) (config : ProxyConfig) (base : String) : Except LoadError Servers := do
  let loaded ← config.servers.foldlM (Loading.add read base) Loading.start
  let initial ← match config.initialServer, loaded.servers with
    | some name, servers => named servers name
    | none, first :: _ => .ok first
    | none, [] => .error (.config .noServers)
  .ok ⟨loaded.servers, initial, ← config.fallback.mapM (named loaded.servers)⟩

end Servers

end Ferry
