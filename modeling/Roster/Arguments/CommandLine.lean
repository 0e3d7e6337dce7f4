import Roster.Arguments.Window
import Roster.Report.Text
/-!
# The command line

The arguments of the program: options that hold for every command, a command, and the command's own options.
The common options may stand on either side of the command, and the later place wins; at one place each
option may be given once.

An option is completed only when the next one is recognised or the arguments end. An argument that cannot be
recognised is therefore reported before what is wrong with the option in front of it.
-/

namespace Roster

inductive Command
  | status
  | importRecords
  | rects (window : WindowArguments) (form : OutputForm)
  | recompute (window : WindowArguments) (form : OutputForm)
deriving DecidableEq, Repr

structure CommandLine where
  verbose : Bool
  configFile : Option String
  command : Option Command
deriving DecidableEq, Repr

/-- Why arguments do not run a command; two of the reasons are requests. -/
inductive ArgumentError
  | helpWanted
  | versionWanted
  | unknownCommand
  | unknownArgument
  /-- An option is given twice at one place. -/
  | repeated
  /-- An option without a value is given one. -/
  | unwantedValue
  /-- An option lacks its value, or may not be empty. -/
  | missingValue
deriving DecidableEq, Repr

namespace CommandLine

inductive Flag
  | verbose
  | json
  | help
  | version
deriving DecidableEq, Repr

inductive Setting
  | config
  | first
  | last
  | client
deriving DecidableEq, Repr

inductive Switch
  | flag (f : Flag)
  | setting (s : Setting)
deriving DecidableEq, Repr

/-- Where an option stands: in front of the command, behind one without options, or behind one on a window. -/
inductive Place
  | program
  | plain
  | window
deriving DecidableEq, Repr

def ofLongName? (place : Place) (name : List Char) : Option Switch :=
  match String.ofList name, place with
  | "verbose", _ => some (.flag .verbose)
  | "config", _ => some (.setting .config)
  | "help", _ => some (.flag .help)
  | "version", .program => some (.flag .version)
  | "from", .window => some (.setting .first)
  | "to", .window => some (.setting .last)
  | "client", .window => some (.setting .client)
  | "json", .window => some (.flag .json)
  | _, _ => none

def ofShortName? (place : Place) (name : Char) : Option Switch :=
  match name, place with
  | 'v', _ => some (.flag .verbose)
  | 'c', _ => some (.setting .config)
  | 'h', _ => some (.flag .help)
  | 'V', .program => some (.flag .version)
  | _, _ => none

/-- The options given at one place. -/
structure Given where
  verbose : Bool
  json : Bool
  config : Option String
  first : Option String
  last : Option String
  client : Option String

namespace Given

def none : Given := ⟨false, false, .none, .none, .none, .none⟩

def setting (g : Given) : Setting → Option String
  | .config => g.config
  | .first => g.first
  | .last => g.last
  | .client => g.client

/-- Gives an option its value. The path of the configuration may not be empty. -/
def set (g : Given) (s : Setting) (value : String) : Except ArgumentError Given :=
  if (g.setting s).isSome then .error .repeated
  else
    match s with
    | .config => if value = "" then .error .missingValue else .ok { g with config := some value }
    | .first => .ok { g with first := some value }
    | .last => .ok { g with last := some value }
    | .client => .ok { g with client := some value }

def raise (g : Given) : Flag → Except ArgumentError Given
  | .verbose => if g.verbose then .error .repeated else .ok { g with verbose := true }
  | .json => if g.json then .error .repeated else .ok { g with json := true }
  | .help => .error .helpWanted
  | .version => .error .versionWanted

end Given

/-- What has been read at one place; the option read last may still be open, with or without its value. -/
structure State where
  given : Given
  pending : Option (Setting × Option String)

namespace State

def start : State := ⟨.none, none⟩

def waiting (s : State) : Bool := s.pending matches some (_, none)

def complete (s : State) : Except ArgumentError Given :=
  match s.pending with
  | none => .ok s.given
  | some (_, none) => .error .missingValue
  | some (setting, some value) => s.given.set setting value

def raise (s : State) (f : Flag) : Except ArgumentError State := do
  let given ← s.complete
  let given ← given.raise f
  .ok ⟨given, none⟩

def setNow (s : State) (setting : Setting) (value : List Char) : Except ArgumentError State := do
  let given ← s.complete
  let given ← given.set setting (String.ofList value)
  .ok ⟨given, none⟩

def await (s : State) (setting : Setting) : Except ArgumentError State := do
  let given ← s.complete
  .ok ⟨given, some (setting, none)⟩

/-- Takes an argument as the value that is waited for. -/
def take (s : State) (value : String) : State :=
  { s with pending := s.pending.map fun (setting, _) => (setting, some value) }

/-- Short options, several of which may be joined; the rest behind one with a value is its value. -/
def readShort (place : Place) : State → List Char → Except ArgumentError State
  | s, [] => .ok s
  | s, c :: rest =>
      match ofShortName? place c with
      | none => .error .unknownArgument
      | some (.flag f) => do
          let s ← s.raise f
          readShort place s rest
      | some (.setting setting) =>
          match rest with
          | [] => s.await setting
          | '=' :: value => s.setNow setting value
          | value => s.setNow setting value

/-- A long option, perhaps with a value behind an equals sign. -/
def readLong (place : Place) (s : State) (option : List Char) : Except ArgumentError State :=
  let name := option.takeWhile (· != '=')
  match ofLongName? place name, option.dropWhile (· != '=') with
  | none, _ => .error .unknownArgument
  | some (.flag f), [] => s.raise f
  | some (.flag _), _ :: _ => .error .unwantedValue
  | some (.setting setting), [] => s.await setting
  | some (.setting setting), _ :: value => s.setNow setting value

/-- One argument that is no command and does not end the options; none if it stands for nothing. -/
def read (place : Place) (s : State) (argument : String) : Except ArgumentError (Option State) :=
  match argument.toList with
  | '-' :: '-' :: option => (s.readLong place option).map some
  | '-' :: c :: rest => (s.readShort place (c :: rest)).map some
  | _ => .ok (if s.waiting then some (s.take argument) else none)

end State

/-- The arguments behind a command. None of the commands takes any but options. -/
def readOptions (place : Place) : State → List String → Except ArgumentError Given
  | s, [] => s.complete
  | s, "--" :: rest => if rest.isEmpty then s.complete else .error .unknownArgument
  | s, argument :: rest => do
      match ← s.read place argument with
      | some s => readOptions place s rest
      | none => .error .unknownArgument

inductive CommandName
  | status
  | importRecords
  | rects
  | recompute
deriving DecidableEq, Repr

namespace CommandName

def ofText? : String → Option CommandName
  | "status" => some status
  | "import" => some importRecords
  | "rects" => some rects
  | "recompute" => some recompute
  | _ => none

def place : CommandName → Place
  | rects | recompute => .window
  | status | importRecords => .plain

def withOptions (name : CommandName) (g : Given) : Command :=
  let window : WindowArguments := ⟨g.first, g.last, g.client⟩
  let form : OutputForm := if g.json then .json else .text
  match name with
  | status => .status
  | importRecords => .importRecords
  | rects => .rects window form
  | recompute => .recompute window form

end CommandName

/-- The word that asks for help on the program or a command. -/
def helpWord : String := "help"

def isCommandWord (argument : String) : Bool :=
  argument == helpWord || (CommandName.ofText? argument).isSome

/-- What `help` answers: a single word after it has to be a command's. -/
def readHelp : List String → ArgumentError
  | [] => .helpWanted
  | [word] => if isCommandWord word then .helpWanted else .unknownCommand
  | _ => .unknownCommand

/-- A command with the options on both sides of it. -/
def readCommand (before : State) (name : CommandName) (rest : List String) :
    Except ArgumentError CommandLine := do
  let behind ← readOptions name.place .start rest
  let before ← before.complete
  .ok ⟨before.verbose || behind.verbose, behind.config.or before.config,
    some (name.withOptions behind)⟩

def withoutCommand (s : State) : Except ArgumentError CommandLine := do
  let given ← s.complete
  .ok ⟨given.verbose, given.config, none⟩

/-- What is wrong with an argument behind the end of the options, where no command is looked for. -/
def refuseTrailing (argument : String) : ArgumentError :=
  if isCommandWord argument then .unknownArgument else .unknownCommand

/-- The arguments from the program's options on. -/
def readFrom : State → List String → Except ArgumentError CommandLine
  | s, [] => withoutCommand s
  | s, argument :: rest =>
      if s.waiting = false ∧ argument = helpWord then .error (readHelp rest)
      else
        match if s.waiting then none else CommandName.ofText? argument with
        | some name => readCommand s name rest
        | none =>
            if argument = "--" then
              match rest with
              | [] => withoutCommand s
              | trailing :: _ => .error (refuseTrailing trailing)
            else do
              match ← s.read .program argument with
              | some s => readFrom s rest
              | none => .error .unknownCommand

def ofArguments (arguments : List String) : Except ArgumentError CommandLine := readFrom .start arguments

end CommandLine

end Roster
