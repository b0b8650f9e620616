import Ferry.Inspect.Config
import Ferry.Script.Basic

/-!
# Scripts about configurations

The files of a script lie below one directory, which is written `<base>`.
-/

namespace Ferry.Script

/-- Files below one directory, by the names on the way to them. -/
abbrev Files := List (List String × Bytes)

namespace Files

/-- The path of the directory. -/
def base : String := "<base>"

/-- Whether something lies below a path. -/
def isDirectory (files : Files) (path : List String) : Bool :=
  path.isEmpty || files.any fun (other, _) => path.isPrefixOf other && path ≠ other

/-- The path that some steps lead to. Every step must be made in a directory. -/
def walk (files : Files) (path : List String) : (steps : List String) → Option (List String)
  | [] => some path
  | step :: steps =>
    if !files.isDirectory path then none
    else if step = "" || step = "." then walk files path steps
    else if step = ".." then if path.isEmpty then none else walk files path.dropLast steps
    else walk files (path ++ [step]) steps

/-- What a file holds. A directory can be opened but not read. -/
def read (files : Files) : ReadFile := fun path =>
  match path.splitOn "/" with
  | root :: steps =>
    match if root = base then files.walk [] steps else none with
    | some path =>
      if files.isDirectory path then .error .unreadable
      else
        match files.lookup path with
        | some contents => .ok contents
        | none => .error .missing
    | none => .error .missing
  | [] => .error .missing

end Files

/-- The files of a script. -/
def filesOf (request : Json) : Option Files := do
  let files : Json ← request.get? "files"
  (← files.members?).mapM fun (path, contents) => do
    some (path.splitOn "/", Bytes.ofString (← contents.as?))

/-- Loads the servers of a configuration and looks some of them up. -/
def servers (request : Json) : Option Json := do
  let read := (← filesOf request).read
  let names : List String ← request.getOr "find" []
  let loaded (config : ProxyConfig) : Json :=
    viewResult (fun servers : Servers =>
        let found := names.map fun name => (servers.get? name).map Server.name
        record (("found", view found) :: servers.members))
      (Servers.load read config Files.base)
  match request.member? "config_file" with
  | some path => do
    some (viewResult loaded (ProxyConfig.load read (joinPath Files.base (← path.as?))))
  | none => do some (viewResult loaded (ProxyConfig.parse (← request.get? "text")))

end Ferry.Script
