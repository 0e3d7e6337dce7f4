import Roster.Text.Basic
import Roster.Text.Decimal
import Roster.Toml.Scalar
/-!
# Settings in the environment

A setting may be given by a variable, whose name is a mark and the key of the setting. What the variable holds is
read as a literal: a truth value, a number, a text between quotation marks, a single character between
apostrophes, an array or a table. What is none of these is the text as it stands.

Only texts and integers can be settings; `Literal.read` keeps of all other literals that they are one.
-/

namespace Roster.Config

/-- The value of a setting. No setting can have any but a text or an integer. -/
inductive Value
  | text (s : String)
  | integer (n : Int)
  | other
deriving DecidableEq, Repr

namespace Literal

def isGap (c : Char) : Bool := c = ' ' || c = '\t' || c = '\n' || c = '\r' || c = '\x0c'

def dropGaps (s : List Char) : List Char := s.dropWhile isGap

/-- Characters of which arrays and tables are made; they end a word. -/
def isSeparator (c : Char) : Bool := c = ',' || c = '{' || c = '}' || c = '[' || c = ']'

/-- Characters of a key without quotation marks. -/
def isKeyChar (c : Char) : Bool := c.isAlphanum || c = '_' || c = '-'

/-! ### Words -/

/-- An integer: up to 64 bits, with a sign if need be. -/
def integer? (s : List Char) : Option Value :=
  let (negative, digits) := Toml.dropSign s
  if digits.isEmpty || !digits.all Char.isDigit then none
  else
    let size := Text.value digits
    if negative then if size ≤ Bound.signed64 then some (.integer (-(size : Int))) else none
    else if size < Bound.unsigned64 then some (.integer size) else none

/-- A power of ten at the end of a number, or nothing. -/
def isPower : List Char → Bool
  | [] => true
  | c :: s =>
      let digits := (Toml.dropSign s).2
      (c = 'e' || c = 'E') && !digits.isEmpty && digits.all Char.isDigit

/-- A number with a point, with digits on at least one side of it. -/
def fraction? (s : List Char) : Option Value :=
  let s := (Toml.dropSign s).2
  let whole := s.takeWhile Char.isDigit
  match s.dropWhile Char.isDigit with
  | '.' :: s =>
      let part := s.takeWhile Char.isDigit
      if (!whole.isEmpty || !part.isEmpty) && isPower (s.dropWhile Char.isDigit) then some .other
      else none
  | _ => none

/-- What a word means: a number if it looks like one, and else its text without the white space around it. -/
def ofWord (word : List Char) : Value :=
  let s := Text.trim word
  (fraction? s <|> integer? s).getD (.text (String.ofList s))

/-! ### Literals -/

/-- A text between quotation marks, after the first of them. -/
def readQuoted (s : List Char) : Option (List Char × List Char) := Toml.readBasic (s.length + 1) s

/-- What follows a key and its equals sign. -/
def afterKey (s : List Char) : Option (List Char) := do
  let rest ← match dropGaps s with
    | '"' :: s => (readQuoted s).map Prod.snd
    | s => if (s.takeWhile isKeyChar).isEmpty then none else some (s.dropWhile isKeyChar)
  match dropGaps rest with
  | '=' :: s => some s
  | _ => none

mutual

/-- A literal that no word is, without the white space around it. -/
def readLiteral : (fuel : Nat) → List Char → Option (Value × List Char)
  | 0, _ => none
  | _ + 1, 't' :: 'r' :: 'u' :: 'e' :: s => some (.other, s)
  | _ + 1, 'f' :: 'a' :: 'l' :: 's' :: 'e' :: s => some (.other, s)
  | fuel + 1, '[' :: s => (readItems fuel s).map fun rest => (.other, rest)
  | fuel + 1, '{' :: s => (readEntries fuel s).map fun rest => (.other, rest)
  | _ + 1, '"' :: s => (readQuoted s).map fun (cs, rest) => (.text (String.ofList cs), rest)
  | _ + 1, '\x27' :: c :: '\x27' :: s => some (.text (String.ofList [c]), s)
  | _ + 1, '\x27' :: _ => none
  | _ + 1, s => some (ofWord (s.takeWhile (!isSeparator ·)), s.dropWhile (!isSeparator ·))
termination_by structural fuel => fuel

/-- What follows an array whose items start here. -/
def readItems : (fuel : Nat) → List Char → Option (List Char)
  | 0, _ => none
  | _ + 1, ']' :: s => some s
  | fuel + 1, s => do
      let (_, s) ← readLiteral fuel (dropGaps s)
      match dropGaps s with
      | ',' :: s => readItems fuel s
      | ']' :: s => some s
      | _ => none
termination_by structural fuel => fuel

/-- What follows a table whose entries start here. -/
def readEntries : (fuel : Nat) → List Char → Option (List Char)
  | 0, _ => none
  | _ + 1, '}' :: s => some s
  | fuel + 1, s => do
      let s ← afterKey s
      let (_, s) ← readLiteral fuel (dropGaps s)
      match dropGaps s with
      | ',' :: s => readEntries fuel s
      | '}' :: s => some s
      | _ => none
termination_by structural fuel => fuel

end

/-- The value that a whole text spells. Two steps of fuel are enough for a character: one to look at what
starts with it, and one to read that. -/
def read (text : String) : Value :=
  let s := text.toList
  match readLiteral (2 * s.length + 2) (dropGaps s) with
  | some (v, rest) => if (dropGaps rest).isEmpty then v else .text text
  | none => .text text

end Literal

/-! ### Variables -/

/-- A variable that holds a setting, or a part of one. -/
structure Variable where
  key : String
  /-- The variable names a part of the setting, which makes a table of it. -/
  isPart : Bool
deriving DecidableEq, Repr

namespace Variable

/-- Variables that start with this, in any case of letters, are settings. -/
def mark : List Char := "shiftline_".toList

/-- The variable with a name, if it is a setting. Behind the mark stands the key; the names of parts follow it
behind points. White space around the name and around what follows the mark is ignored. -/
def ofName? (name : String) : Option Variable :=
  let lower := (Text.trim name.toList).map Char.toLower
  if lower.take mark.length = mark then
    match (Text.trim (lower.drop mark.length)).splitOn '.' with
    | [] => none
    | key :: parts =>
        if key.isEmpty || parts.any List.isEmpty then none
        else some ⟨String.ofList key, !parts.isEmpty⟩
  else none

/-- The value of the setting. -/
def value (v : Variable) (text : String) : Value := if v.isPart then .other else Literal.read text

end Variable

end Roster.Config
