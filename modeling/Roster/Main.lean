import Std.Time.Zoned
import Roster.Environment
import Roster.Program
import Roster.Store.File
/-!
# The executable

Reads what a run needs, hands it to `Program.run`, and prints and keeps what comes of it.
-/

namespace Roster.Main

def usage : String := lines [
  "Builds the timelines of clients from works, changes and breaks, and reports where a client is booked twice.",
  "",
  "Usage: shiftline [OPTIONS] [COMMAND]",
  "",
  "Commands:",
  "  status     Show where the store is kept and how much it holds",
  "  import     Import records from standard input, one in JSON to a line",
  "  rects      Print the timelines of a window",
  "  recompute  Report the collisions in a window",
  "  help       Print this help",
  "",
  "Options:",
  "  -v, --verbose        Enable verbose output",
  "  -c, --config <FILE>  Read this configuration file",
  "  -h, --help           Print this help",
  "  -V, --version        Print the version",
  "",
  "Options of rects and recompute:",
  "  --from <DATE>    First date (YYYY-MM-DD, today, yesterday or N days ago)",
  "  --to <DATE>      Last date, inclusive; today if it is left out",
  "  --client <ID>    Only this client",
  "  --json           Print JSON"]

/-- Does without a file that is not there. -/
def ifThere {α : Type} (action : IO α) : IO (Option α) :=
  try some <$> action
  catch
    | .noFileOrDirectory .. => return none
    | e => throw e

def content? (path : String) : IO (Option String) := do
  match ← ifThere (IO.FS.readBinFile path) with
  | none => return none
  | some bytes =>
      match String.fromUTF8? bytes with
      | some text => return some text
      | none => throw <| IO.userError s!"{path} is not UTF-8"

/-- The text of the first of some files that is there. -/
def firstContent? : List String → IO (Option String)
  | [] => return none
  | path :: rest => do
      match ← content? path with
      | some text => return some text
      | none => firstContent? rest

def environment : IO Environment := do
  let bytes ← IO.FS.readBinFile "/proc/self/environ"
  let definitions := (Text.splitLines (· == 0) bytes.toList).filterMap fun definition =>
    String.fromUTF8? ⟨definition.toArray⟩
  return .ofDefinitions definitions

def today : IO Date := do
  let d ← Std.Time.PlainDate.now
  match Date.ofCivil? d.year d.month.toNat d.day.toNat with
  | some date => return date
  | none => throw <| IO.userError "today is out of range"

partial def readAll (stream : IO.FS.Stream) (before : ByteArray) : IO ByteArray := do
  let more ← stream.read 65536
  if more.isEmpty then return before else readAll stream (before ++ more)

/-- The store that a file keeps, if there is such a file. -/
def store? (path : String) : IO (Option Store) := do
  match ← content? path with
  | none => return none
  | some text =>
      match Store.ofFile? text with
      | some s => return some s
      | none => throw <| IO.userError s!"{path} does not keep a store"

def keep (path : String) (s : Store) : IO Unit := do
  if let some directory := Environment.directory? path then IO.FS.createDirAll directory
  IO.FS.writeFile path s.toFile

/-- All that a run finds around it but the store. -/
def surroundings (arguments : List String) : IO Surroundings := do
  let e ← environment
  let userFile ← match e.configFile? with
    | some path => content? path
    | none => pure none
  let level := (toString (← IO.currentDir)).toList.count '/'
  let named := (Program.commandLine? arguments).bind fun (line, _) => line.configFile
  let namedFile ← match named with
    | some path => firstContent? (Environment.places level path)
    | none => pure none
  return {
    defaults := e.defaults
    userFile := userFile
    namedFile := fun _ => namedFile
    environment := e
    stored := fun _ => none
    today := ← today
    run := passName (← IO.getRandomBytes 16).toList }

def input (arguments : List String) : IO (List UInt8) := do
  match Program.commandLine? arguments with
  | some (_, c) => if c.readsInput then return (← readAll (← IO.getStdin) .empty).toList else return []
  | none => return []

def announce : Ending → IO Unit
  | .help => IO.print usage
  | .version => IO.println "shiftline 0.1.0"
  | .badArguments _ => IO.eprint usage
  | .failed cause => IO.eprint cause.report
  | .finished output => IO.print output

def run (arguments : List String) : IO UInt32 := do
  let around ← surroundings arguments
  let stored ← match Program.storePath? arguments around with
    | some path => store? path
    | none => pure none
  let outcome := Program.run arguments { around with stored := fun _ => stored } (← input arguments)
  if let some (path, left) := outcome.kept then keep path left
  announce outcome.ending
  return outcome.ending.code.toUInt32

end Roster.Main

def main (arguments : List String) : IO UInt32 := do
  try Roster.Main.run arguments
  catch e =>
    IO.eprintln s!"Error: {e}"
    return 1
