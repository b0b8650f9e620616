import Ferry.Farewell
import Ferry.Inspect.Player

/-!
# Scripts

A script is a document that lists steps. Carrying it out on a value of this library answers
every step with a document, so that the value can be watched from outside.
-/

namespace Ferry.Script

/-- The steps of a script, each carried out in the state that the one before has left. -/
def steps {σ : Type} (step : σ → Json → Option (Json × σ)) : σ → List Json → Option (List Json × σ)
  | state, [] => some ([], state)
  | state, request :: requests => do
    let (answer, state) ← step state request
    let (answers, state) ← steps step state requests
    some (answer :: answers, state)

/-- The version that a script is for. -/
def versionOf (request : Json) : Option Version := do
  some ⟨← request.getOr "version" Version.latest.number⟩

/-- A batch of raw packets, repeated as often as asked. -/
def rawBatch (request : Json) : Option Batch := do
  let packets : List RawPacket ← request.get? "packets"
  let times : Nat ← request.getOr "times" 1
  some (Batch.ofPackets ((List.replicate times (packets.map RawPacket.toBatchPacket)).flatten))

/-- The answer to what can only succeed or fail. -/
def viewDone {ε : Type} [View ε] (result : Except ε Unit) : Json :=
  viewResult (fun _ => view "ok") result

/-- The farewell that a document asks for. -/
def farewellOf (request : Json) : Option Farewell := do
  let arguments : List String ← request.getOr "args" []
  let first := arguments.getD 0 ""
  let second := arguments.getD 1 ""
  match ← request.get? "make" with
  | "queue_overflow" => some .queueOverflow
  | "transfer_failed" => some (.transferFailed first second)
  | "backend_closed" => some (.backendClosed first)
  | "backend_kicked" => some (.backendKicked first second)
  | "no_fallback" => some .noFallback
  | "unsupported_version" => do some (.unsupportedVersion (Int32.ofInt (← first.toInt?)))
  | "protocol_error" => some (.protocolError first)
  | "proxy_shutdown" => some .shutdown
  | _ => do some ⟨← request.get? "key", arguments⟩

end Ferry.Script
