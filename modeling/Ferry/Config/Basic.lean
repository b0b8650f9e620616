import Ferry.Address
import Ferry.Compression.Basic
import Ferry.Queue
import Ferry.Transfer.Waiting

/-!
# What an operator configures

A configuration names at least one server and none twice, and every server that it refers
to is among those it names. `ProxyConfig.validate` says which of these rules is broken
first.
-/

namespace Ferry

/-- A backend server, with the files that hold its palettes. -/
structure ServerConfig where
  name : String
  address : Address
  blockPalette : String
  /-- Servers without an item palette share an empty one. -/
  itemPalette : Option String
  deriving DecidableEq, Repr

/-- The whole configuration. -/
structure ProxyConfig where
  /-- Where clients connect. -/
  bind : Address
  servers : List ServerConfig
  /-- Where players go first; the first server where nothing is said. -/
  initialServer : Option String
  /-- Where players go, in order, when a server is lost. -/
  fallback : List String
  compression : CompressionSettings
  queue : QueueLimits
  waiting : WaitingLimits
  /-- Milliseconds between two flushes of the queues. -/
  flushInterval : Nat
  deriving DecidableEq, Repr

/-- Why a configuration is refused. -/
inductive ConfigError where
  /-- It is no document, or something has a wrong type, is missing or unknown. -/
  | malformed
  | noServers
  | repeatedServer (name : String)
  | unknownServer (name : String)
  | noFlushInterval
  deriving DecidableEq, Repr

/-- What an operator reads about a refused configuration. -/
def ConfigError.message : ConfigError → String
  | .malformed => "malformed configuration"
  | .noServers => "no servers configured"
  | .repeatedServer name => s!"server {name} is configured twice"
  | .unknownServer name => s!"unknown server {name}"
  | .noFlushInterval => "flush interval must be positive"

namespace ProxyConfig

/-- The bind address of a configuration that says nothing about it. -/
def defaultBind : Address := Address.everywhere 19132

/-- The flush interval of a configuration that says nothing about it. -/
def defaultFlushInterval : Nat := 50

/-- The names of the servers. -/
def names (config : ProxyConfig) : List String := config.servers.map ServerConfig.name

/-- The names of servers that the rest of the configuration refers to. -/
def references (config : ProxyConfig) : List String :=
  config.initialServer.toList ++ config.fallback

/-- The first name that stands in front of itself, where `seen` stands in front of all. -/
def firstRepeated? (seen : List String) : List String → Option String
  | [] => none
  | name :: names => if name ∈ seen then some name else firstRepeated? (name :: seen) names

/-- Refuses a configuration that breaks a rule. -/
def validate (config : ProxyConfig) : Except ConfigError Unit :=
  if config.servers.isEmpty then .error .noServers
  else
    match firstRepeated? [] config.names with
    | some name => .error (.repeatedServer name)
    | none =>
      match config.references.find? fun name => name ∉ config.names with
      | some name => .error (.unknownServer name)
      | none => if config.flushInterval = 0 then .error .noFlushInterval else .ok ()

end ProxyConfig

end Ferry
