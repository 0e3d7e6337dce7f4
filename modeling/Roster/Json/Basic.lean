import Roster.Text.Decimal
/-!
# JSON values and their texts

The values that records and reports are written as. An object keeps its members in order. `compact` writes a
value without white space, `pretty` over several lines with two spaces to a level.
-/

namespace Roster

inductive Json
  | text (s : String)
  | number (n : Nat)
  | bool (b : Bool)
  | array (items : List Json)
  | object (members : List (String × Json))

namespace Json

/-- How a character stands within quotation marks. -/
def escape (c : Char) : List Char :=
  match c with
  | '"' => ['\\', '"']
  | '\\' => ['\\', '\\']
  | '\n' => ['\\', 'n']
  | '\r' => ['\\', 'r']
  | '\t' => ['\\', 't']
  | '\x08' => ['\\', 'b']
  | '\x0c' => ['\\', 'f']
  | c =>
      if c.toNat < 0x20 then
        ['\\', 'u', '0', '0', Nat.digitChar (c.toNat / 16), Nat.digitChar (c.toNat % 16)]
      else [c]

def textChars (s : String) : List Char := '"' :: s.toList.flatMap escape ++ ['"']

def boolChars (b : Bool) : List Char := if b then ['t', 'r', 'u', 'e'] else ['f', 'a', 'l', 's', 'e']

/-- Texts one after the other with a separator in between. -/
def joined (separator : List Char) : List (List Char) → List Char
  | [] => []
  | [s] => s
  | s :: rest => s ++ separator ++ joined separator rest

mutual

def compactChars : Json → List Char
  | .text s => textChars s
  | .number n => Nat.toDigits 10 n
  | .bool b => boolChars b
  | .array items => '[' :: joined [','] (compactItems items) ++ [']']
  | .object members => '{' :: joined [','] (compactMembers members) ++ ['}']
termination_by structural v => v

def compactItems : List Json → List (List Char)
  | [] => []
  | v :: rest => compactChars v :: compactItems rest
termination_by structural vs => vs

def compactMembers : List (String × Json) → List (List Char)
  | [] => []
  | m :: rest => compactMember m :: compactMembers rest
termination_by structural ms => ms

def compactMember : String × Json → List Char
  | (key, v) => textChars key ++ ':' :: compactChars v
termination_by structural m => m

end

def newline (level : Nat) : List Char := '\n' :: List.replicate (2 * level) ' '

/-- Parts on lines of their own, one level in; no parts leave nothing between the brackets. -/
def bracketed (level : Nat) (opening closing : Char) (parts : List (List Char)) : List Char :=
  match parts with
  | [] => [opening, closing]
  | _ :: _ =>
      opening :: newline (level + 1) ++ joined (',' :: newline (level + 1)) parts ++
        newline level ++ [closing]

mutual

def prettyChars (level : Nat) : Json → List Char
  | .text s => textChars s
  | .number n => Nat.toDigits 10 n
  | .bool b => boolChars b
  | .array items => bracketed level '[' ']' (prettyItems (level + 1) items)
  | .object members => bracketed level '{' '}' (prettyMembers (level + 1) members)
termination_by structural v => v

def prettyItems (level : Nat) : List Json → List (List Char)
  | [] => []
  | v :: rest => prettyChars level v :: prettyItems level rest
termination_by structural vs => vs

def prettyMembers (level : Nat) : List (String × Json) → List (List Char)
  | [] => []
  | m :: rest => prettyMember level m :: prettyMembers level rest
termination_by structural ms => ms

def prettyMember (level : Nat) : String × Json → List Char
  | (key, v) => textChars key ++ ':' :: ' ' :: prettyChars level v
termination_by structural m => m

end

def compact (v : Json) : String := String.ofList (compactChars v)

def pretty (v : Json) : String := String.ofList (prettyChars 0 v)

end Json

end Roster
