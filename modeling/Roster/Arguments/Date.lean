import Roster.Calendar.Text
import Roster.Text.Basic
/-!
# Dates as arguments

A date may be given as itself, with tight spacing; as `today` or `yesterday`; or as a number of days or weeks
ago. White space around it is ignored. Digits of any script are recognised in the relative form, but only
decimal digits of ASCII make a number.
-/

namespace Roster

open Text

/-- Why digits make no number. -/
inductive NumberError
  | invalidDigit
  | tooLarge
deriving DecidableEq, Repr

def NumberError.message : NumberError → String
  | invalidDigit => "invalid digit found in string"
  | tooLarge => "number too large to fit in target type"

inductive DateUnit
  | day
  | week
deriving DecidableEq, Repr

namespace DateUnit

def name : DateUnit → String
  | day => "day"
  | week => "week"

def days : DateUnit → Nat
  | day => 1
  | week => 7

end DateUnit

inductive DateError
  | unknownForm (text : String)
  | number (cause : NumberError)
  | tooLarge (n : Nat) (unit : DateUnit)
  | outOfRange (days : Nat) (today : Date)
deriving DecidableEq

namespace DateError

def message : DateError → String
  | unknownForm text =>
      s!"Invalid date: {text}. Use ISO 8601 (e.g., 2026-01-15), 'today', 'yesterday', or " ++
        "relative (e.g., '3 days ago')"
  | number _ => "failed to parse number in relative date"
  | tooLarge n unit => s!"Relative date value too large: {n} {unit.name}"
  | outOfRange days today => s!"date {days} days before {today} is out of range"

def causes : DateError → List String
  | number cause => [cause.message]
  | _ => []

end DateError

/-- The text after a word that it has to start with. -/
def stripWord : List Char → List Char → Option (List Char)
  | [], s => some s
  | c :: word, d :: s => if c = d then stripWord word s else none
  | _ :: _, [] => none

/-- The text after at least one blank and all that follow. -/
def stripBlanks : List Char → Option (List Char)
  | [] => none
  | c :: s => if isBlank c then some (dropBlanks s) else none

/-- A date in the relative form: so many units ago. -/
structure RelativeDate where
  digits : List Char
  unit : DateUnit

namespace RelativeDate

def unitAndRest (s : List Char) : Option (DateUnit × List Char) :=
  match stripWord ['d', 'a', 'y'] s with
  | some rest => some (.day, rest)
  | none => (stripWord ['w', 'e', 'e', 'k'] s).map fun rest => (.week, rest)

def dropPlural : List Char → List Char
  | 's' :: s => s
  | s => s

def ofChars? (s : List Char) : Option RelativeDate := do
  let digits := s.takeWhile isNumeral
  let s ← if digits.isEmpty then none else stripBlanks (s.dropWhile isNumeral)
  let (unit, s) ← unitAndRest s
  let s ← stripBlanks (dropPlural s)
  let s ← stripWord ['a', 'g', 'o'] s
  if s.isEmpty then some ⟨digits, unit⟩ else none

/-- Reads on in a number, digit by digit; the first that is wrong or too much is the error. -/
def readNumber : (soFar : Nat) → List Char → Except NumberError Nat
  | n, [] => .ok n
  | n, c :: s =>
      if c.isDigit then
        let n := n * 10 + value [c]
        if n < Bound.unsigned64 then readNumber n s else .error .tooLarge
      else .error .invalidDigit

/-- No more than about a thousand years are counted back. -/
def greatestDays : Nat := 1000 * 365

end RelativeDate

def Date.daysBefore (today : Date) (days : Nat) : Except DateError Date :=
  match today.daysBefore? days with
  | some d => .ok d
  | none => .error (.outOfRange days today)

def RelativeDate.resolve (r : RelativeDate) (today : Date) : Except DateError Date :=
  match readNumber 0 r.digits with
  | .error cause => .error (.number cause)
  | .ok n =>
      if greatestDays / r.unit.days < n then .error (.tooLarge n r.unit)
      else today.daysBefore (n * r.unit.days)

def Date.ofArgument (text : String) (today : Date) : Except DateError Date :=
  let s := trim text.toList
  if s = ['t', 'o', 'd', 'a', 'y'] then .ok today
  else if s = ['y', 'e', 's', 't', 'e', 'r', 'd', 'a', 'y'] then today.daysBefore 1
  else
    match Date.ofChars .tight s with
    | .ok d => .ok d
    | .error _ =>
        match RelativeDate.ofChars? s with
        | some r => r.resolve today
        | none => .error (.unknownForm (String.ofList s))

end Roster
