import Roster.Arguments.Date
import Roster.Timeline
/-!
# Windows as arguments

A window is given by its first and last date and a client, all of which may be missing. It ends today unless
told otherwise, and without a first date it has the configured number of days, at least one.
-/

namespace Roster

structure WindowArguments where
  first : Option String
  last : Option String
  client : Option String
deriving DecidableEq, Repr

inductive WindowError
  | badLast (cause : DateError)
  | badFirst (cause : DateError)
  /-- The configured number of days does not fit in front of the last date. -/
  | noFirst (cause : DateError)
  | badClient (cause : EmptyIdent)
  | reversed (cause : ReversedWindow)
deriving DecidableEq

namespace WindowError

def message : WindowError → String
  | badLast _ => "invalid --to"
  | badFirst _ => "invalid --from"
  | noFirst cause => cause.message
  | badClient _ => "invalid --client"
  | reversed cause => cause.message

def causes : WindowError → List String
  | badLast cause | badFirst cause => cause.message :: cause.causes
  | noFirst cause => cause.causes
  | badClient cause => [cause.message]
  | reversed _ => []

end WindowError

namespace WindowArguments

def resolveLast (a : WindowArguments) (today : Date) : Except WindowError Date :=
  match a.last with
  | some text => (Date.ofArgument text today).mapError .badLast
  | .none => .ok today

def resolveFirst (a : WindowArguments) (windowDays : Nat) (today last : Date) :
    Except WindowError Date :=
  match a.first with
  | some text => (Date.ofArgument text today).mapError .badFirst
  | .none => (last.daysBefore (max windowDays 1 - 1)).mapError .noFirst

def resolveClient (a : WindowArguments) : Except WindowError (Option ClientId) :=
  match a.client with
  | some text => ((Ident.ofText .client text).mapError .badClient).map some
  | .none => .ok .none

def resolve (a : WindowArguments) (windowDays : Nat) (today : Date) : Except WindowError Window := do
  let last ← a.resolveLast today
  let first ← a.resolveFirst windowDays today last
  let client ← a.resolveClient
  (Window.ofDates first last client).mapError .reversed

end WindowArguments

end Roster
