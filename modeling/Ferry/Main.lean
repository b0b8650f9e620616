import Ferry.Config.Arguments
import Ferry.Config.Servers
import Ferry.Proxy.Run
import Std.Async.TCP
import Std.Sync.Channel

/-!
# The program

The command line names a configuration; the proxy listens where it says. Every stream has a
thread that reads and a thread that writes, and all that they report goes through one
channel to one loop, in which the proxy takes it in.
-/

namespace Ferry

open Std.Async Std.Net

/-- What the threads report. -/
inductive Report where
  | accepted (socket : TCP.Socket.Client)
  | reached (visitor : SessionId) (attempt : Nat) (socket : TCP.Socket.Client)
  | event (event : NetworkEvent)

instance : Inhabited Report := ⟨.event .tick⟩

/-- Where the threads report to. -/
abbrev Reports := Std.Channel.Sync Report

/-- What is to be written to a stream. -/
abbrev Outbox := Std.CloseableChannel.Sync ByteArray

/-- The proxy and the streams that are open. -/
structure Running where
  proxy : Proxy
  reports : Reports
  outboxes : List (Nat × Outbox)
  /-- The number of the next stream. -/
  next : Nat

/-- An address as the network knows it. -/
def Address.toSocket (address : Address) : SocketAddress :=
  match address.host with
  | .v4 a b c d => .v4 ⟨⟨#v[a, b, c, d]⟩, address.listener⟩
  | .v6 groups _ => .v6 ⟨⟨Vector.ofFn fun index : Fin 8 => groups.getD index 0⟩, address.listener⟩

/-- Starts a thread. -/
def spawn (act : IO Unit) : IO Unit := do
  let _ ← IO.asTask act .dedicated

/-- Reports what comes in on a stream. -/
partial def listen (reports : Reports) (number : Nat) (socket : TCP.Socket.Client) : IO Unit := do
  let received ← try (socket.recv? 65536).block catch _ => pure none
  match received with
  | none => reports.send (.event (.ended number))
  | some bytes =>
    reports.send (.event (.received number (Bytes.ofByteArray bytes)))
    listen reports number socket

/-- Writes what is to be written to a stream, and closes it at the end. -/
partial def speak (reports : Reports) (number : Nat) (socket : TCP.Socket.Client)
    (outbox : Outbox) : IO Unit := do
  match ← outbox.recv with
  | none => try socket.shutdown.block catch _ => pure ()
  | some bytes =>
    try
      (socket.send bytes).block
      speak reports number socket outbox
    catch _ => reports.send (.event (.severed number))

/-- Reports the clients that connect. -/
partial def welcome (reports : Reports) (server : TCP.Socket.Server) : IO Unit := do
  let socket ← server.accept.block
  reports.send (.accepted socket)
  welcome reports server

/-- Reports that time passes. -/
partial def tick (reports : Reports) (interval : Nat) : IO Unit := do
  IO.sleep (UInt32.ofNat interval)
  reports.send (.event .tick)
  tick reports interval

/-- Opens a stream to a server. -/
def dial (reports : Reports) (visitor : SessionId) (attempt : Nat) (server : Server) :
    IO Unit := do
  try
    let socket ← TCP.Socket.Client.mk
    (socket.connect server.address.toSocket).block
    reports.send (.reached visitor attempt socket)
  catch cause => reports.send (.event (.unreachable visitor attempt (toString cause)))

/-- Does what the proxy asks for. -/
def perform (running : Running) : Effect → IO Running
  | .write number bytes => do
    if let some outbox := running.outboxes.lookup number then
      try outbox.send (Bytes.pack bytes) catch _ => pure ()
    pure running
  | .close number => do
    if let some outbox := running.outboxes.lookup number then
      try outbox.close catch _ => pure ()
    pure { running with outboxes := running.outboxes.filter fun (other, _) => other ≠ number }
  | .call visitor attempt server => do
    spawn (dial running.reports visitor attempt server)
    pure running

/-- Lets the proxy take in an event. -/
def hear (running : Running) (event : NetworkEvent) : IO Running := do
  let (proxy, effects) := running.proxy.handle event
  effects.foldlM perform { running with proxy := proxy }

/-- Gives a stream its number and its threads. -/
def attach (running : Running) (socket : TCP.Socket.Client) : IO (Nat × Running) := do
  let number := running.next
  let outbox ← Std.CloseableChannel.Sync.new
  try socket.noDelay catch _ => pure ()
  spawn (listen running.reports number socket)
  spawn (speak running.reports number socket outbox)
  pure (number, { running with
    outboxes := (number, outbox) :: running.outboxes
    next := number + 1 })

/-- Takes in what the threads report, for ever. -/
partial def keepRunning (running : Running) : IO Unit := do
  let running ← match ← running.reports.recv with
    | .accepted socket => do
      let (number, running) ← attach running socket
      hear running (.accepted number)
    | .reached visitor attempt socket => do
      let (number, running) ← attach running socket
      hear running (.reached visitor attempt number)
    | .event event => hear running event
  keepRunning running

/-- What a file holds. -/
def readFile (path : String) : IO (Except FileFault Bytes) := do
  try
    let contents ← IO.FS.readBinFile path
    pure (.ok (Bytes.ofByteArray contents))
  catch
    | .noFileOrDirectory .. => pure (.error .missing)
    | _ => pure (.error .unreadable)

/-- Reads several files at once. -/
def readFiles (paths : List String) : IO ReadFile := do
  let contents ← paths.mapM fun path => do
    let held ← readFile path
    pure (path, held)
  pure fun path => (contents.lookup path).getD (.error .missing)

/-- The directory that a path is in. -/
def parentOf (path : String) : String :=
  "/".intercalate (path.splitOn "/").dropLast

/-- The files that a configuration names. -/
def ProxyConfig.files (config : ProxyConfig) (base : String) : List String :=
  config.servers.flatMap fun server =>
    (server.blockPalette :: server.itemPalette.toList).map (joinPath base)

/-- Ends the program with a message. -/
def refuse {α : Type} (message : String) : IO α :=
  throw (IO.userError message)

/-- Loads what the command line names. -/
def loadAll (arguments : Arguments) : IO (ProxyConfig × Servers) := do
  let read ← readFiles [arguments.config]
  match ProxyConfig.load read arguments.config with
  | .error fault => refuse fault.message
  | .ok config =>
    let base := parentOf arguments.config
    let read ← readFiles (config.files base)
    match Servers.load read config base with
    | .error fault => refuse s!"failed to load servers: {fault.message}"
    | .ok servers => pure (config, servers)

/-- Listens and serves, for ever. -/
def serve (address : Address) (config : ProxyConfig) (servers : Servers) : IO Unit := do
  let server ← TCP.Socket.Server.mk
  try
    server.bind address.toSocket
    server.listen 128
  catch _ => refuse (Proxy.bindFailure (toString address))
  IO.println s!"Started on {address}, sending players to {servers.initial.name}"
  let reports ← Std.Channel.Sync.new
  spawn (welcome reports server)
  spawn (tick reports config.flushInterval)
  let services : SessionServices :=
    ⟨config.queue, config.waiting, fun lost _ _ => Server.fallback? servers.fallback lost⟩
  let settings : ProxySettings := ⟨services, config.compression, servers.initial⟩
  keepRunning ⟨Proxy.start settings, reports, [], 0⟩

/-- What the program says about its command line. -/
def usage : String := "\n".intercalate [
  "Bedrock proxy with seamless server transfers", "", "Usage: ferry [OPTIONS]", "", "Options:",
  "  -c, --config <CONFIG>  Configuration file [default: proxy.toml]",
  "  -b, --bind <BIND>      Overrides the bind address from the configuration file",
  "  -h, --help             Print help",
  "  -V, --version          Print version"]

end Ferry

open Ferry in
/-- Runs the proxy that the command line describes. -/
def main (words : List String) : IO UInt32 := do
  match Arguments.parse ("ferry" :: words) with
  | .error .help =>
    IO.println usage
    pure 0
  | .error .version =>
    IO.println "ferry 0.1.0"
    pure 0
  | .error _ =>
    IO.eprintln usage
    pure 2
  | .ok arguments =>
    try
      let (config, servers) ← loadAll arguments
      serve (arguments.bind.getD config.bind) config servers
      pure 0
    catch fault =>
      IO.eprintln s!"Error: {fault}"
      pure 1
