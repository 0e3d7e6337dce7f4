import Roster.Config
/-!
# The environment

Where the program looks for its files. The user's directories are named by environment variables; one that is not
absolute is not used. A configuration file given by a relative path is looked for in the current directory
and in those above it.
-/

namespace Roster

/-- The environment variables by name. -/
abbrev Environment := List (String × String)

namespace Environment

/-- The environment from its definitions, each `name=value`. -/
def ofDefinitions (definitions : List String) : Environment :=
  definitions.filterMap fun definition =>
    match definition.toList.span (· ≠ '=') with
    | (name, _ :: value) => some (String.ofList name, String.ofList value)
    | (_, []) => none

def isAbsolute (path : String) : Bool := path.startsWith "/"

/-- The absolute path that a variable holds. -/
def absolute? (e : Environment) (name : String) : Option String := (e.lookup name).filter isAbsolute

/-- A directory of the user: the one that a variable names, or else one in the user's home. -/
def userDirectory? (e : Environment) (name inHome : String) : Option String :=
  e.absolute? name <|> (e.lookup "HOME").map fun home => home ++ "/" ++ inHome

def dataDirectory? (e : Environment) : Option String :=
  e.userDirectory? "XDG_DATA_HOME" ".local/share"

def configFile? (e : Environment) : Option String :=
  (e.userDirectory? "XDG_CONFIG_HOME" ".config").map (· ++ "/shiftline/config.toml")

/-- The configuration where nothing is configured; without a directory for data the store is kept in the current
one. -/
def defaults (e : Environment) : Config :=
  match e.dataDirectory? with
  | some directory => .defaults directory
  | none => ⟨"./shiftline.db", Config.defaultWindowDays⟩

/-- The places where a file is looked for, nearest first, from so many levels below the root. -/
def places (level : Nat) (path : String) : List String :=
  if isAbsolute path then [path]
  else (List.range (level + 1)).map fun up => String.join (List.replicate up "../") ++ path

/-- The directory of a file, unless it is the current one. -/
def directory? (path : String) : Option String :=
  match path.toList.reverse.dropWhile (· ≠ '/') with
  | [] => none
  | slash :: before => some (String.ofList (if before.isEmpty then [slash] else before.reverse))

end Environment

/-- The text of sixteen random bytes as the name of a pass, which says by two of its digits that it is random. -/
def passName (bytes : List UInt8) : String :=
  let digit (n : Nat) (b : UInt8) : List Char :=
    let low := b.toNat % 16
    match n with
    | 6 => ['4', Nat.digitChar low]
    | 8 => [Nat.digitChar (8 + b.toNat / 16 % 4), Nat.digitChar low]
    | _ => [Nat.digitChar (b.toNat / 16), Nat.digitChar low]
  let group (start size : Nat) : String :=
    String.ofList (((bytes.zipIdx.drop start).take size).flatMap fun (b, n) => digit n b)
  "-".intercalate [group 0 4, group 4 2, group 6 2, group 8 2, group 10 6]

end Roster
