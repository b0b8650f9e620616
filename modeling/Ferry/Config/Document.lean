import Ferry.Config.Basic
import Ferry.Toml.Parser

/-!
# Configurations as documents

A structure is written as a table, or as an array of its fields in their order, where
the last ones may be left out. The configuration and its servers know all their fields;
the other structures ignore what they do not know, and have a default for each field.
-/

namespace Ferry

namespace Toml.Value

/-- The text of a value that is one. -/
def text? : Value → Option String
  | .text value => some value
  | _ => none

/-- The elements of a value that is an array, in either form. -/
def elements? : Value → Option (List Value)
  | .array elements => some elements
  | .tables elements => some (elements.map (.table .headed))
  | _ => none

/-- A list of values of one kind. -/
def list? {α : Type} (read : Value → Option α) (value : Value) : Option (List α) := do
  (← value.elements?).mapM read

/-- A whole number below a bound. -/
def below? (bound : Nat) : Value → Option Nat
  | .integer value => if 0 ≤ value && value < bound then some value.toNat else none
  | _ => none

/-- A whole number of at most 64 bits. -/
def natural? : Value → Option Nat := below? UInt64.size

/-- An address, written as a text. -/
def address? (value : Value) : Option Address := value.text? >>= Address.ofString?

/-- A table or an array without anything in it. -/
def isEmpty : Value → Bool
  | .table _ entries => entries.isEmpty
  | .array elements => elements.isEmpty
  | _ => false

/-- A compression algorithm: its name as a text, or as the one name in a table, with nothing
under it. -/
def algorithm? : Value → Option Algorithm
  | .text name => Algorithm.ofName? name
  | .table _ [(name, inner)] => if inner.isEmpty then Algorithm.ofName? name else none
  | _ => none

end Toml.Value

/-- The fields of a structure, by name. -/
abbrev Toml.Fields := String → Option Toml.Value

namespace Toml.Fields

/-- The fields of a table, which must be among the known ones where `closed`. -/
def ofEntries? (closed : Bool) (names : List String) (entries : Entries) : Option Fields :=
  if closed && entries.any fun (name, _) => name ∉ names then none
  else some fun name => entries.lookup name

/-- The fields of a structure in any of its forms. A date or time counts as a table with
something unknown in it. -/
def ofValue? (closed : Bool) (names : List String) (value : Value) : Option Fields :=
  match value with
  | .table _ entries => ofEntries? closed names entries
  | .moment _ => if closed then none else some fun _ => none
  | value => do
    let elements ← value.elements?
    some fun name => (names.zip elements).lookup name

/-- A field that must be there. -/
def required {α : Type} (fields : Fields) (name : String) (read : Value → Option α) : Option α :=
  fields name >>= read

/-- A field with a default. -/
def optional {α : Type} (fields : Fields) (name : String) (read : Value → Option α)
    (otherwise : α) : Option α :=
  match fields name with
  | some value => read value
  | none => some otherwise

end Toml.Fields

open Toml Fields

/-- The compression settings of a value. -/
def CompressionSettings.ofValue? (value : Value) : Option CompressionSettings := do
  let fields ← Fields.ofValue? false ["algorithm", "level", "threshold"] value
  let threshold ← fields.optional "threshold" (Value.below? UInt16.size) default.threshold.toNat
  some { algorithm := ← fields.optional "algorithm" Value.algorithm? default.algorithm
         level := ← fields.optional "level" (Value.below? UInt32.size) default.level
         threshold := UInt16.ofNat threshold }

/-- The queue limits of a value. -/
def QueueLimits.ofValue? (value : Value) : Option QueueLimits := do
  let fields ← Fields.ofValue? false ["max_packets", "max_batches"] value
  some { maxPackets := ← fields.optional "max_packets" Value.natural? default.maxPackets
         maxBatches := ← fields.optional "max_batches" Value.natural? default.maxBatches }

/-- The limits of waiting packets of a value. -/
def WaitingLimits.ofValue? (value : Value) : Option WaitingLimits := do
  let fields ← Fields.ofValue? false ["soft", "hard", "release_batch"] value
  some { soft := ← fields.optional "soft" Value.natural? default.soft
         hard := ← fields.optional "hard" Value.natural? default.hard
         releaseBatch := ← fields.optional "release_batch" Value.natural? default.releaseBatch }

/-- The server of a value. -/
def ServerConfig.ofValue? (value : Value) : Option ServerConfig := do
  let fields ← Fields.ofValue? true ["name", "address", "block_palette", "item_palette"] value
  some { name := ← fields.required "name" Value.text?
         address := ← fields.required "address" Value.address?
         blockPalette := ← fields.required "block_palette" Value.text?
         itemPalette := ← fields.optional "item_palette" (·.text?.map some) none }

namespace ProxyConfig

/-- The configuration that the entries of a document stand for. -/
def ofEntries? (entries : Entries) : Option ProxyConfig := do
  let fields ← Fields.ofEntries? true ["bind", "servers", "initial_server", "fallback",
    "compression", "queue", "transfer_queue", "flush_interval_ms"] entries
  some { bind := ← fields.optional "bind" Value.address? defaultBind
         servers := ← fields.required "servers" (Value.list? ServerConfig.ofValue?)
         initialServer := ← fields.optional "initial_server" (·.text?.map some) none
         fallback := ← fields.optional "fallback" (Value.list? Value.text?) []
         compression := ← fields.optional "compression" CompressionSettings.ofValue? .default
         queue := ← fields.optional "queue" QueueLimits.ofValue? .default
         waiting := ← fields.optional "transfer_queue" WaitingLimits.ofValue? .default
         flushInterval :=
           ← fields.optional "flush_interval_ms" Value.natural? defaultFlushInterval }

/-- The configuration that a text stands for, if it breaks no rule. -/
def parse (text : String) : Except ConfigError ProxyConfig :=
  match Toml.parse? text >>= ofEntries? with
  | none => .error .malformed
  | some config => config.validate.map fun () => config

end ProxyConfig

end Ferry
