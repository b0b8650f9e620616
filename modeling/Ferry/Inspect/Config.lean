import Ferry.Config.Arguments
import Ferry.Config.Servers
import Ferry.Inspect.Player

/-!
# Configurations as documents
-/

namespace Ferry

instance : View Address where
  toDocument address := view (toString address)
  ofDocument? document := document.toString? >>= Address.ofString?

instance : View ServerConfig where
  toDocument server := record [("name", view server.name), ("address", view server.address),
    ("block_palette", view server.blockPalette), ("item_palette", view server.itemPalette)]
  ofDocument? _ := none

instance : View ProxyConfig where
  toDocument config := record [("bind", view config.bind), ("servers", view config.servers),
    ("initial_server", view config.initialServer), ("fallback", view config.fallback),
    ("compression", view config.compression), ("queue", view config.queue),
    ("transfer_queue", view config.waiting),
    ("flush_interval_ms", .ofDecimal config.flushInterval)]
  ofDocument? _ := none

instance : View ConfigError where
  toDocument
    | .malformed => record [("error", view "Toml")]
    | fault => failure "Config" fault.message
  ofDocument? _ := none

instance : View LoadError where
  toDocument fault := failure "Load" fault.message
  ofDocument? _ := none

/-- Loaded servers, each with the first server that it shares each palette with. -/
def Servers.members (servers : Servers) : List (String × Json) :=
  let document (server : Server) : Json :=
    let sharing (same : Server → Bool) : Option Nat := servers.all.findIdx? same
    record [("name", view server.name), ("address", view server.address),
      ("blocks", view server.blocks.palette.summary), ("items", view server.items.palette.summary),
      ("shares_blocks_with", view (sharing fun other => other.blocks.sameInstance server.blocks)),
      ("shares_items_with", view (sharing fun other => other.items.sameInstance server.items)),
      ("fallback", view ((Server.fallback? servers.fallback server).map Server.name))]
  [("initial", view servers.initial.name), ("servers", .array (servers.all.map document))]

instance : View Arguments where
  toDocument arguments :=
    record [("config", view arguments.config), ("bind", view arguments.bind)]
  ofDocument? _ := none

instance : View ArgumentError where
  toDocument fault :=
    let kind := match fault with
      | .missingValue => "InvalidValue"
      | .badValue => "ValueValidation"
      | .unknownWord => "UnknownArgument"
      | .repeatedSetting => "ArgumentConflict"
      | .needlessValue => "TooManyValues"
      | .help => "DisplayHelp"
      | .version => "DisplayVersion"
    record [("error", view kind)]
  ofDocument? _ := none

end Ferry
