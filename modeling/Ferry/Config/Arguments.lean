import Ferry.Address

/-!
# The command line

Two settings, each with a short and a long name. The value of a setting is attached to its
name or is the next word, unless that word looks like another setting. A value is looked
at only once the next setting begins or the line ends, so an unknown word later in the line
is reported first.
-/

namespace Ferry

/-- Why the proxy does not start. -/
inductive ArgumentError where
  /-- A setting lacks its value. -/
  | missingValue
  /-- A value cannot be read. -/
  | badValue
  | unknownWord
  | repeatedSetting
  /-- A word that stands for itself has a value. -/
  | needlessValue
  /-- Only help is asked for. -/
  | help
  /-- Only the version is asked for. -/
  | version
  deriving DecidableEq, Repr

/-- What the command line says. -/
structure Arguments where
  /-- The file with the configuration. -/
  config : String
  /-- Where clients connect, whatever the configuration says. -/
  bind : Option Address
  deriving DecidableEq, Repr

namespace Arguments

/-- What a word can name. -/
inductive Setting where
  | config
  | bind
  | help
  | version
  deriving DecidableEq, Repr

/-- The setting of a long name. -/
def Setting.ofName? : String → Option Setting
  | "config" => some config
  | "bind" => some bind
  | "help" => some help
  | "version" => some version
  | _ => none

/-- The setting of a letter. -/
def Setting.ofLetter? : Char → Option Setting
  | 'c' => some config
  | 'b' => some bind
  | 'h' => some help
  | 'V' => some version
  | _ => none

/-- A word of the command line. -/
inductive Word where
  /-- Two hyphens, after which no word names a setting. -/
  | separator
  | long (name : String) (value : Option String)
  | short (letters : List Char)
  | plain (text : String)
  deriving DecidableEq, Repr

/-- What a word is by its hyphens. A single hyphen is a word like any other. -/
def Word.ofString (text : String) : Word :=
  match text.toList with
  | ['-', '-'] => separator
  | '-' :: '-' :: rest =>
    match rest.span (· ≠ '=') with
    | (name, _ :: value) => long (String.ofList name) (some (String.ofList value))
    | (name, []) => long (String.ofList name) none
  | '-' :: letter :: rest => short (letter :: rest)
  | _ => plain text

/-- What is known after some words. -/
structure Progress where
  config : Option String
  bind : Option Address
  /-- The last setting, with its value if it has one already. -/
  pending : Option (Setting × Option String)
  /-- Whether no word names a setting any more. -/
  separated : Bool

namespace Progress

/-- Nothing is known. -/
def start : Progress := ⟨none, none, none, false⟩

/-- Takes the value of a setting. -/
def assign (progress : Progress) (setting : Setting) (value : String) :
    Except ArgumentError Progress :=
  match setting with
  | .config =>
    if progress.config.isSome then .error .repeatedSetting
    else if value.isEmpty then .error .missingValue
    else .ok { progress with config := some value }
  | .bind =>
    if progress.bind.isSome then .error .repeatedSetting
    else
      match Address.ofString? value with
      | some address => .ok { progress with bind := some address }
      | none => .error .badValue
  | .help => .error .help
  | .version => .error .version

/-- Takes the value of the last setting. -/
def settle (progress : Progress) : Except ArgumentError Progress :=
  match progress.pending with
  | none => .ok progress
  | some (_, none) => .error .missingValue
  | some (setting, some value) => { progress with pending := none }.assign setting value

/-- Begins a setting, whose value may be attached. -/
def begin (progress : Progress) (setting : Setting) (value : Option String) :
    Except ArgumentError Progress := do
  let progress ← progress.settle
  match setting, value with
  | .help, _ => .error .help
  | .version, _ => .error .version
  | setting, some value => progress.assign setting value
  | setting, none => .ok { progress with pending := some (setting, none) }

/-- What follows a letter that names a setting with a value. -/
def attached : List Char → Option String
  | [] => none
  | '=' :: value => some (String.ofList value)
  | value => some (String.ofList value)

/-- Takes one more word. -/
def step (progress : Progress) (word : String) : Except ArgumentError Progress :=
  if progress.separated then .error .unknownWord
  else
    match Word.ofString word with
    | .separator => .ok { progress with separated := true }
    | .long name value =>
      match Setting.ofName? name with
      | none => .error .unknownWord
      | some setting =>
        if (setting = .help || setting = .version) && value.isSome then .error .needlessValue
        else progress.begin setting value
    | .short letters =>
      match letters.head? >>= Setting.ofLetter? with
      | none => .error .unknownWord
      | some setting => progress.begin setting (attached letters.tail)
    | .plain text =>
      match progress.pending with
      | some (setting, none) => .ok { progress with pending := some (setting, some text) }
      | _ => .error .unknownWord

end Progress

/-- What a command line says; its first word is the name of the program. -/
def parse (words : List String) : Except ArgumentError Arguments := do
  let progress ← words.tail.foldlM Progress.step Progress.start
  let progress ← progress.settle
  .ok ⟨progress.config.getD "proxy.toml", progress.bind⟩

end Arguments

end Ferry
