/-!
# Identifiers

Works, changes, breaks, clients and shifts are named by texts of any characters, at least one. Each kind of
identifier is a type of its own. Identifiers are compared character by character, which is also the order
of their bytes in UTF-8.
-/

namespace Roster

/-- What an identifier names. A source is the work or the break that a rect comes from. -/
inductive IdentKind
  | work
  | change
  | break
  | client
  | shift
  | source
deriving DecidableEq, Repr

def IdentKind.noun : IdentKind → String
  | work => "work ID"
  | change => "change ID"
  | .break => "break ID"
  | client => "client ID"
  | shift => "shift ID"
  | source => "source ID"

structure Ident (kind : IdentKind) where
  text : String
  text_ne_empty : text ≠ ""
deriving DecidableEq

abbrev WorkId := Ident .work
abbrev ChangeId := Ident .change
abbrev BreakId := Ident .break
abbrev ClientId := Ident .client
abbrev ShiftId := Ident .shift
abbrev SourceId := Ident .source

structure EmptyIdent where
  kind : IdentKind
deriving DecidableEq, Repr

def EmptyIdent.message (e : EmptyIdent) : String := e.kind.noun ++ " cannot be empty"

namespace Ident

variable {kind : IdentKind}

def ofText (kind : IdentKind) (text : String) : Except EmptyIdent (Ident kind) :=
  if h : text ≠ "" then .ok ⟨text, h⟩ else .error ⟨kind⟩

instance : ToString (Ident kind) := ⟨Ident.text⟩

instance : LT (Ident kind) := ⟨fun a b => a.text < b.text⟩

instance (a b : Ident kind) : Decidable (a < b) := inferInstanceAs (Decidable (a.text < b.text))

/-- The same text as the name of a source. -/
def toSource (id : Ident kind) : SourceId := ⟨id.text, id.text_ne_empty⟩

theorem ext_iff {a b : Ident kind} : a = b ↔ a.text = b.text := by
  cases a; cases b; simp

theorem ofText_text (id : Ident kind) : ofText kind id.text = .ok id := by
  simp [ofText, id.text_ne_empty]

theorem ofText_eq_error_iff {text : String} {e : EmptyIdent} :
    ofText kind text = .error e ↔ text = "" ∧ e = ⟨kind⟩ := by
  unfold ofText
  split <;> simp_all [eq_comm]

end Ident

end Roster
