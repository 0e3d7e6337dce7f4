import Roster.Json.Decode
import Roster.Store.Basic
/-!
# The store as a file

A store is kept as one JSON object with a member for each table that is there. A table is an array of rows, a row
an array of texts; a change without a replacement client is a shorter row.
-/

namespace Roster

namespace WorkRow

def texts (r : WorkRow) : List String := [r.id, r.client, r.shift, r.date, r.start, r.finish]

def ofTexts? : List String → Option WorkRow
  | [id, client, shift, date, start, finish] => some ⟨id, client, shift, date, start, finish⟩
  | _ => none

end WorkRow

namespace ChangeRow

def texts (r : ChangeRow) : List String :=
  [r.id, r.work, r.kind, r.start, r.finish] ++ r.replacement.toList

def ofTexts? : List String → Option ChangeRow
  | [id, work, kind, start, finish] => some ⟨id, work, kind, start, finish, none⟩
  | [id, work, kind, start, finish, client] => some ⟨id, work, kind, start, finish, some client⟩
  | _ => none

end ChangeRow

namespace BreakRow

def texts (r : BreakRow) : List String := [r.id, r.client, r.date, r.start, r.finish]

def ofTexts? : List String → Option BreakRow
  | [id, client, date, start, finish] => some ⟨id, client, date, start, finish⟩
  | _ => none

end BreakRow

namespace Store

/-! ### Writing -/

/-- The member of a table, if the table is there. -/
def tableMember {α : Type} (table : Table) (texts : α → List String) (rows : Option (List α)) :
    List (String × Json) :=
  (rows.map fun rows => (table.name, Json.array (rows.map fun r => .array ((texts r).map .text)))).toList

def toJson (s : Store) : Json :=
  .object <| tableMember .works WorkRow.texts s.works ++
    tableMember .changes ChangeRow.texts s.changes ++ tableMember .breaks BreakRow.texts s.breaks

/-- The content of the file that keeps the store. -/
def toFile (s : Store) : String := s.toJson.compact ++ "\n"

/-! ### Reading -/

open Json in
/-- The rows of a table among the tables of a file; a row that cannot be one spoils the file. -/
def rowsOf {α : Type} (table : Table) (ofTexts? : List String → Option α)
    (tables : List (Option String × Reading)) : Option (Option (List α)) :=
  match tables.lookup (some table.name) with
  | none => some none
  | some v =>
      match v.asList (Reading.asList (Reading.asText "a text")) with
      | .ok rows => (rows.mapM ofTexts?).map some
      | .error _ => none

open Json in
/-- The store that a file keeps. -/
def ofFile? (content : String) : Option Store :=
  match Reading.ofChars content.toList with
  | (.object tables .closed, some rest) =>
      if rest.all isSpace then do
        let works ← rowsOf .works WorkRow.ofTexts? tables
        let changes ← rowsOf .changes ChangeRow.ofTexts? tables
        let breaks ← rowsOf .breaks BreakRow.ofTexts? tables
        some ⟨works, changes, breaks⟩
      else none
  | _ => none

end Store

end Roster
