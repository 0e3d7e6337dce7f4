/-!
# Tables of a configuration file

What a TOML document builds up: tables of keys, among them tables that only headers or dotted keys have
mentioned so far. A key is defined once. `assign` defines a key, `openTable` and `openItem` go to the table of a
header; they fail where the document would define something twice.
-/

namespace Roster.Toml

/-- How a table came to be, which decides what may still be added to it. -/
inductive Origin
  /-- A longer header passes through it. -/
  | implied
  | header
  | dotted
  /-- It is written as a value. -/
  | inline
deriving DecidableEq, Repr

/-- A value; of those that no setting can have only the sort is kept. -/
inductive Node
  | text (s : String)
  | integer (n : Int)
  /-- A truth value, a number with a fraction, a date or a time. -/
  | scalar
  | array
  | table (origin : Origin) (entries : List (String × Node))
  /-- An array of tables under construction; the last of them can be added to. -/
  | tables (last : List (String × Node))

abbrev Entries := List (String × Node)

def get? (key : String) (entries : Entries) : Option Node :=
  (entries.find? fun entry => entry.1 = key).map Prod.snd

/-- Puts a node in place of the one under its key, or at the end. -/
def put (key : String) (node : Node) (entries : Entries) : Entries :=
  if (get? key entries).isSome then
    entries.map fun entry => if entry.1 = key then (key, node) else entry
  else entries ++ [(key, node)]

/-- Defines a key. The table it is put in, if it is named by a dotted key, has to be made by dotted keys; on the
way to it may lie tables that headers have passed through. -/
def assign (node : Node) : (path : List String) → Entries → Option Entries
  | [], _ => none
  | [key], entries => if (get? key entries).isSome then none else some (put key node entries)
  | key :: path, entries =>
      match get? key entries with
      | none => (assign node path []).map fun inner => put key (.table .dotted inner) entries
      | some (.table .dotted inner) =>
          (assign node path inner).map fun inner => put key (.table .dotted inner) entries
      | some (.table .implied inner) =>
          if path.length < 2 then none
          else (assign node path inner).map fun inner => put key (.table .implied inner) entries
      | some (.tables last) =>
          if path.length < 2 then none
          else (assign node path last).map fun last => put key (.tables last) entries
      | some _ => none

/-- Changes the table at the end of a path, which leads through tables and the last items of arrays. -/
def update (change : Entries → Option Entries) : (path : List String) → Entries → Option Entries
  | [], entries => change entries
  | key :: path, entries =>
      match get? key entries with
      | none => (update change path []).map fun inner => put key (.table .implied inner) entries
      | some (.table .inline _) => none
      | some (.table origin inner) =>
          (update change path inner).map fun inner => put key (.table origin inner) entries
      | some (.tables last) =>
          (update change path last).map fun last => put key (.tables last) entries
      | some _ => none

/-- Makes the table of a header. -/
def openTable (key : String) (entries : Entries) : Option Entries :=
  match get? key entries with
  | none => some (put key (.table .header []) entries)
  | some (.table .implied inner) => some (put key (.table .header inner) entries)
  | some _ => none

/-- Adds a table to the array of tables of a header. -/
def openItem (key : String) (entries : Entries) : Option Entries :=
  match get? key entries with
  | none => some (put key (.tables []) entries)
  | some (.tables _) => some (put key (.tables []) entries)
  | some _ => none

end Roster.Toml
