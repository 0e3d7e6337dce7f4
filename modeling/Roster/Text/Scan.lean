import Roster.Text.Basic
import Roster.Text.Decimal
/-!
# Scanning dates and times

The pieces from which the readers of dates and times of day are put together: numbers, single separators
and the end of the text. Each takes the characters still to be read and answers what follows. They report
the first thing that is wrong from left to right, and a number is checked as soon as it has been read.
-/

namespace Roster.Text

/-- Why a text is no date or time of day. -/
inductive ScanError
  | premature
  | unexpected
  | outOfRange
  | trailing
deriving DecidableEq, Repr

def ScanError.message : ScanError → String
  | premature => "premature end of input"
  | unexpected => "input contains invalid characters"
  | outOfRange => "input is out of range"
  | trailing => "trailing input"

/-- A number of one to `width` digits, counted in 64 bits with a sign. -/
def scanNumber (width : Nat) (s : List Char) : Except ScanError (Nat × List Char) :=
  match s with
  | [] => .error .premature
  | c :: _ =>
      if c.isDigit then
        let (digits, rest) := takeDigits width s
        if value digits < Bound.signed64 then .ok (value digits, rest) else .error .outOfRange
      else .error .unexpected

/-- A number of at most two digits between two bounds, with white space allowed in front. -/
def scanPart (least greatest : Nat) (s : List Char) : Except ScanError (Nat × List Char) := do
  let (n, rest) ← scanNumber 2 (dropBlanks s)
  if least ≤ n ∧ n ≤ greatest then .ok (n, rest) else .error .outOfRange

def scanChar (c : Char) : List Char → Except ScanError (List Char)
  | [] => .error .premature
  | d :: s => if d = c then .ok s else .error .unexpected

def scanEnd : List Char → Except ScanError Unit
  | [] => .ok ()
  | _ :: _ => .error .trailing

/-- How much white space a form admits. -/
inductive Spacing
  /-- Around every separator and at both ends. -/
  | free
  /-- In front of numbers only. -/
  | tight
deriving DecidableEq

/-- What remains where the form may leave a gap after a number. -/
def Spacing.gap : Spacing → List Char → List Char
  | .free, s => dropBlanks s
  | .tight, s => s

end Roster.Text
