import Ferry.Packet.Login

/-!
# Why a session ends

A farewell is a key and arguments, so that the text can be put into the player's
language; `Farewell.text` is the English text.
-/

namespace Ferry

/-- Why the proxy ends a session. -/
structure Farewell where
  key : String
  arguments : List String
  deriving DecidableEq, Repr

namespace Farewell

/-- Too many packets waited for the player. -/
def queueOverflow : Farewell := ⟨"proxy.queue.overflow", []⟩

/-- The player could not be moved to a server. -/
def transferFailed (server message : String) : Farewell :=
  ⟨"proxy.transfer.failed", [server, message]⟩

/-- The connection to a server was lost. -/
def backendClosed (server : String) : Farewell := ⟨"proxy.backend.closed", [server]⟩

/-- A server has sent the player away. -/
def backendKicked (server message : String) : Farewell :=
  ⟨"proxy.backend.kicked", [server, message]⟩

/-- There is no server to go to. -/
def noFallback : Farewell := ⟨"proxy.fallback.none", []⟩

/-- The player's version is not supported. -/
def unsupportedVersion (version : Int32) : Farewell :=
  ⟨"proxy.version.unsupported", [toString version.toInt]⟩

/-- The player broke the protocol. -/
def protocolError (message : String) : Farewell := ⟨"proxy.protocol.error", [message]⟩

/-- The proxy is shutting down. -/
def shutdown : Farewell := ⟨"proxy.shutdown", []⟩

/-- An argument; one that is missing is empty. -/
def argument (farewell : Farewell) (index : Nat) : String := farewell.arguments.getD index ""

/-- The English text. A key without one is shown with its arguments behind it. -/
def text (farewell : Farewell) : String :=
  let first := farewell.argument 0
  let second := farewell.argument 1
  match farewell.key with
  | "proxy.queue.overflow" => "Too many packets queued for your connection"
  | "proxy.transfer.failed" => s!"Could not connect to {first}: {second}"
  | "proxy.backend.closed" => s!"Lost connection to {first}"
  | "proxy.backend.kicked" => s!"Kicked from {first}: {second}"
  | "proxy.fallback.none" => "No server is available right now"
  | "proxy.version.unsupported" => s!"Protocol version {first} is not supported"
  | "proxy.protocol.error" => s!"Protocol error: {first}"
  | "proxy.shutdown" => "The proxy is shutting down"
  | other => " ".intercalate (other :: farewell.arguments)

/-- The packet that tells the player. -/
def packet (farewell : Farewell) : Disconnect := Disconnect.ofMessage farewell.text

end Farewell

end Ferry
