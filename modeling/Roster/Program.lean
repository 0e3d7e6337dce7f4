import Roster.Arguments.CommandLine
import Roster.Config
import Roster.Import
import Roster.Store.Output
/-!
# The program

One run of the program, with everything it needs from the outside as arguments: the configuration layers, the day,
the store as it was left, the input and a name for the pass. The answer is what it prints, what it reports as its
error, and the store it leaves.
-/

namespace Roster

structure Surroundings where
  defaults : Config
  /-- The text of the user's configuration file, if it exists. -/
  userFile : Option String
  /-- The text of a configuration file named on the command line, if it exists. -/
  namedFile : String → Option String
  environment : List (String × String)
  /-- The store that is kept at a path, if there is one. -/
  stored : String → Option Store
  today : Date
  run : String

inductive ProgramError
  | config (cause : Config.Error)
  | window (cause : WindowError)
  | importing (cause : ImportError)
  | output (cause : OutputError)

namespace ProgramError

def message : ProgramError → String
  | config _ => "failed to load configuration"
  | window cause => cause.message
  | importing cause => cause.message
  | output cause => cause.message

def causes : ProgramError → List String
  | config cause => [cause.message]
  | window cause => cause.causes
  | importing cause => cause.causes
  | output cause => cause.causes

/-- What is reported of an error: its message, and below it its causes, numbered if there are several. -/
def report (e : ProgramError) : String :=
  let listed := match e.causes with
    | [] => []
    | [cause] => ["", "Caused by:", "    " ++ cause]
    | causes => ["", "Caused by:"] ++ causes.zipIdx.map fun (cause, n) => s!"    {n}: {cause}"
  lines (("Error: " ++ e.message) :: listed)

end ProgramError

namespace Command

/-- Runs a command on a store; the answer is the store it leaves, and what it prints or why it fails. -/
def run (c : Command) (around : Surroundings) (config : Config) (input : List UInt8) (s : Store) :
    Store × Except ProgramError String :=
  match c with
  | .status => (s, (s.status config.databasePath).mapError .output)
  | .importRecords =>
      match Import.run s (Import.ofBytes input) with
      | (stored, .ok (_, report)) => (stored, .ok report)
      | (stored, .error cause) => (stored, .error (.importing cause))
  | .rects window form =>
      match window.resolve config.windowDays around.today with
      | .error cause => (s, .error (.window cause))
      | .ok w => (s, (s.listing w form).mapError .output)
  | .recompute window form =>
      match window.resolve config.windowDays around.today with
      | .error cause => (s, .error (.window cause))
      | .ok w => (s, ((s.recompute w form around.run).map Prod.fst).mapError .output)

end Command

def CommandLine.config (line : CommandLine) (around : Surroundings) : Except ProgramError Config :=
  (Config.load around.defaults around.userFile (line.configFile.bind around.namedFile)
    around.environment).mapError .config

def Command.readsInput : Command → Bool
  | .importRecords => true
  | _ => false

inductive Ending
  /-- Help is printed, because it was wanted or no command was given. -/
  | help
  | version
  | badArguments (cause : ArgumentError)
  | failed (cause : ProgramError)
  | finished (output : String)

def Ending.code : Ending → Nat
  | help | version | finished _ => 0
  | failed _ => 1
  | badArguments _ => 2

structure Outcome where
  ending : Ending
  /-- The store that is kept from now on and its path, if a store was opened. -/
  kept : Option (String × Store)

def Ending.ofArgumentError : ArgumentError → Ending
  | .helpWanted => help
  | .versionWanted => version
  | cause => badArguments cause

namespace Program

/-- Runs a command. The store is opened, which brings back missing tables, before the command looks at its
own arguments. -/
def runCommand (c : Command) (around : Surroundings) (config : Config) (input : List UInt8) : Outcome :=
  let opened := ((around.stored config.databasePath).getD .empty).reopen
  let (left, result) := c.run around config input opened
  let ending := match result with
    | .ok output => .finished output
    | .error cause => .failed cause
  ⟨ending, some (config.databasePath, left)⟩

def run (arguments : List String) (around : Surroundings) (input : List UInt8) : Outcome :=
  match CommandLine.ofArguments arguments with
  | .error cause => ⟨.ofArgumentError cause, none⟩
  | .ok line =>
      match line.command with
      | none => ⟨.help, none⟩
      | some c =>
          match line.config around with
          | .error cause => ⟨.failed cause, none⟩
          | .ok config => runCommand c around config input

/-- The command line of a run that gets as far as its command. -/
def commandLine? (arguments : List String) : Option (CommandLine × Command) :=
  match CommandLine.ofArguments arguments with
  | .ok line => line.command.map fun c => (line, c)
  | .error _ => none

/-- The path of the store that a run opens, if it opens one. -/
def storePath? (arguments : List String) (around : Surroundings) : Option String :=
  match commandLine? arguments with
  | some (line, _) =>
      match line.config around with
      | .ok config => some config.databasePath
      | .error _ => none
  | none => none

end Program

end Roster
