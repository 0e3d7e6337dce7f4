import Roster.Config.Variable
import Roster.Text.Quoted
import Roster.Toml.Document
/-!
# Configuration

Two settings: where the store is kept, and how many days a window has by default. They are looked up in layers:
the defaults, the user's configuration file, a file named on the command line and the environment. The last layer
that has a setting decides, also about its type. A file that cannot be read as TOML is an error in any layer.
-/

namespace Roster

structure Config where
  databasePath : String
  windowDays : Nat
deriving DecidableEq, Repr

namespace Config

inductive Key
  | databasePath
  | windowDays
deriving DecidableEq, Repr

def Key.name : Key → String
  | databasePath => "database_path"
  | windowDays => "window_days"

/-- The values of settings, of which the last one given counts. -/
abbrev Layer := List (String × Value)

inductive Error
  | badDocument
  | wrongType (key : Key)
  | outOfRange (key : Key)
deriving DecidableEq, Repr

def Error.message : Error → String
  | badDocument => "a configuration file cannot be read as TOML"
  | wrongType key => s!"{key.name} has the wrong type"
  | outOfRange key => s!"{key.name} is out of range"

def defaultWindowDays : Nat := 7

/-- The defaults of a user with a data directory. -/
def defaults (dataDirectory : String) : Config :=
  ⟨dataDirectory ++ "/shiftline/shiftline.db", defaultWindowDays⟩

/-! ### Files -/

def Value.ofNode : Toml.Node → Value
  | .text s => .text s
  | .integer n => .integer n
  | _ => .other

/-- The layer of a file; a file that does not exist has no settings. -/
def layerOfFile : Option String → Except Error Layer
  | none => .ok []
  | some text =>
      match Toml.parse text with
      | some entries => .ok (entries.map fun (key, node) => (key, .ofNode node))
      | none => .error .badDocument

def layerOfVariables (environment : List (String × String)) : Layer :=
  environment.filterMap fun (name, text) =>
    (Variable.ofName? name).map fun v => (v.key, v.value text)

/-! ### Looking up -/

def find? (key : Key) (layer : Layer) : Option Value :=
  (layer.reverse.find? fun entry => entry.1 = key.name).map Prod.snd

def pathSetting (fallback : String) : Option Value → Except Error String
  | none => .ok fallback
  | some (.text s) => .ok s
  | some _ => .error (.wrongType .databasePath)

def daysSetting (fallback : Nat) : Option Value → Except Error Nat
  | none => .ok fallback
  | some (.integer n) =>
      if 0 ≤ n ∧ n < Bound.unsigned32 then .ok n.toNat else .error (.outOfRange .windowDays)
  | some _ => .error (.wrongType .windowDays)

/-- The configuration from its layers; the files are given by their texts, if they exist. -/
def load (fallback : Config) (userFile namedFile : Option String) (environment : List (String × String)) :
    Except Error Config := do
  let user ← layerOfFile userFile
  let named ← layerOfFile namedFile
  let all := user ++ named ++ layerOfVariables environment
  let databasePath ← pathSetting fallback.databasePath (find? .databasePath all)
  let windowDays ← daysSetting fallback.windowDays (find? .windowDays all)
  .ok ⟨databasePath, windowDays⟩

def describe (c : Config) : String :=
  let path := Text.quoted c.databasePath
  s!"Config \x7b database_path: {path}, window_days: {c.windowDays} \x7d"

end Config

end Roster
