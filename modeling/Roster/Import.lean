import Roster.Record.Tagged
import Roster.Store.Basic
import Roster.Text.Basic
/-!
# Import

An import adds the records of a text to the store, one record to a line. White space around a record and lines
without one are ignored. The first line that is at fault makes the import fail, and then nothing is stored.
-/

namespace Roster

open Text

inductive ImportError
  /-- The line is not UTF-8. -/
  | unreadableLine (line : Nat)
  | invalidRecord (line : Nat) (cause : Json.DecodeError)
  /-- A correction names a client, as only a replacement may. -/
  | strayClient (line : Nat) (kind : ChangeKind) (id : ChangeId)
  | store (cause : StoreError)
deriving DecidableEq

namespace ImportError

def message : ImportError → String
  | unreadableLine line => s!"failed to read line {line}"
  | invalidRecord line _ => s!"invalid record on line {line}"
  | strayClient line _ _ => s!"invalid change on line {line}"
  | store _ => "failed to store records"

def causes : ImportError → List String
  | unreadableLine _ => ["stream did not contain valid UTF-8"]
  | invalidRecord _ cause => [cause.message]
  | strayClient _ kind id => [s!"{kind.name} {id} cannot name a replacement client"]
  | store cause => cause.message :: cause.causes

end ImportError

namespace Import

/-- Only replacements name a client. -/
def check (line : Nat) : TaggedRecord → Except ImportError TaggedRecord
  | .change c =>
      if c.kind.isReplacement = false ∧ c.replacement.isSome then
        .error (.strayClient line c.kind c.id)
      else .ok (.change c)
  | r => .ok r

/-- The record on a line, if it is not blank. -/
def readLine (line : Nat) : Option (List Char) → Except ImportError (Option TaggedRecord)
  | none => .error (.unreadableLine line)
  | some s =>
      match trim s with
      | [] => .ok none
      | c :: s =>
          match Json.decodeText TaggedRecord.decode (c :: s) with
          | .ok r => (check line r).map some
          | .error cause => .error (.invalidRecord line cause)

/-- The records on lines of which the first has the given number. -/
def readLines : (line : Nat) → List (Option (List Char)) → Except ImportError (List TaggedRecord)
  | _, [] => .ok []
  | line, s :: rest => do
      let r ← readLine line s
      let more ← readLines (line + 1) rest
      .ok (r.toList ++ more)

def readRecords (lines : List (Option (List Char))) : Except ImportError RecordSet :=
  (readLines 1 lines).map RecordSet.ofTagged

def ofText (s : String) : Except ImportError RecordSet :=
  readRecords ((linesOfChars s.toList).map some)

def ofBytes (bytes : List UInt8) : Except ImportError RecordSet := readRecords (linesOfBytes bytes)

/-- What an import reports: how many of its records were new. -/
def summary (r : RecordSet) (new : Counts) : String :=
  s!"Imported {new.total} new of {r.size} records " ++
    s!"({new.works} works, {new.changes} changes, {new.breaks} breaks)\n"

/-- Stores records that have been read; the answer is the number of new ones and the report. -/
def run (s : Store) (records : Except ImportError RecordSet) :
    Store × Except ImportError (Counts × String) :=
  match records with
  | .error e => (s, .error e)
  | .ok r =>
      match s.insert r with
      | (stored, .ok new) => (stored, .ok (new, summary r new))
      | (stored, .error cause) => (stored, .error (.store cause))

end Import

end Roster
