import Roster.Arguments.Window
import Roster.Proofs.Arguments.Date
/-!
# What window arguments mean

The last date is found first, because without a first date the window reaches back from it; then the client; and in the end
the dates are compared. What is said about a window (`WindowArguments.Describes`) has no order in it, but which fault is
reported has one (`WindowArguments.Refuses`): each stands behind everything that was looked at before it.

A first date that is not given leaves a number of days in the window, and there are as many dates in it as days between its
ends (`WindowArguments.ncard_eq_max_iff`). It is one day at least, so such a first date never lies behind the last
(`WindowArguments.not_reversed_of_first_eq_none`).
-/

namespace Roster

open Text

/-- The difference of two words without sign, unless it lies below zero. -/
def Bound.sub? (m n : Nat) : Option Nat := if n ≤ m then some (m - n) else none

namespace WindowArguments

variable {a : WindowArguments} {windowDays : Nat} {today first last : Date}

/-- The last date is the one that is given, or else today. -/
def EndsAt (a : WindowArguments) (today last : Date) : Prop :=
  match a.last with
  | some text => Date.Means today (trim text.toList) last
  | .none => last = today

/-- The first date is the one that is given, or else leaves as many days as are configured, at least one. -/
def BeginsAt (a : WindowArguments) (windowDays : Nat) (today last first : Date) : Prop :=
  match a.first with
  | some text => Date.Means today (trim text.toList) first
  | .none => {d : Date | first ≤ d ∧ d ≤ last}.ncard = max windowDays 1

/-- A window that is asked for. -/
structure Describes (a : WindowArguments) (windowDays : Nat) (today : Date) (w : Window) : Prop where
  last : a.EndsAt today w.last
  first : a.BeginsAt windowDays today w.last w.first
  ordered : w.first ≤ w.last
  client : w.client.map Ident.text = a.client
  client_ne : a.client ≠ some ""

/-- Why there is no such window. -/
inductive Refuses (a : WindowArguments) (windowDays : Nat) (today : Date) : WindowError → Prop
  | badLast {text : String} {cause : DateError} (htext : a.last = some text)
      (hcause : Date.Refuses today (trim text.toList) cause) : Refuses a windowDays today (.badLast cause)
  | badFirst {last : Date} {text : String} {cause : DateError} (hlast : a.EndsAt today last)
      (htext : a.first = some text) (hcause : Date.Refuses today (trim text.toList) cause) :
      Refuses a windowDays today (.badFirst cause)
  | noFirst {last : Date} (hlast : a.EndsAt today last) (hfirst : a.first = .none)
      (hnone : ∀ d : Date, d.dayNumber + (max windowDays 1 - 1 : Nat) ≠ last.dayNumber) :
      Refuses a windowDays today (.noFirst (.outOfRange (max windowDays 1 - 1) last))
  | badClient {last first : Date} (hlast : a.EndsAt today last) (hfirst : a.BeginsAt windowDays today last first)
      (hclient : a.client = some "") : Refuses a windowDays today (.badClient ⟨.client⟩)
  | reversed {last first : Date} (hlast : a.EndsAt today last) (hfirst : a.BeginsAt windowDays today last first)
      (hclient : a.client ≠ some "") (hreversed : last < first) :
      Refuses a windowDays today (.reversed ⟨first, last⟩)

theorem resolveLast_eq_ok_iff : a.resolveLast today = .ok last ↔ a.EndsAt today last := by
  unfold resolveLast EndsAt
  cases a.last with
  | none => simp [eq_comm]
  | some text => rw [mapError_eq_ok_iff, Date.ofArgument_eq_ok_iff]

theorem resolveLast_eq_error_iff {e : WindowError} :
    a.resolveLast today = .error e ↔
      ∃ text cause, a.last = some text ∧ Date.Refuses today (trim text.toList) cause ∧ .badLast cause = e := by
  unfold resolveLast
  cases a.last with
  | none => simp
  | some text => simp [mapError_eq_error_iff, Date.ofArgument_eq_error_iff]

/-- Leaving a number of days is counting back all but the last one. -/
theorem ncard_eq_max_iff :
    {d : Date | first ≤ d ∧ d ≤ last}.ncard = max windowDays 1 ↔
      first.dayNumber + (max windowDays 1 - 1 : Nat) = last.dayNumber := by
  rw [Date.ncard_between]
  omega

theorem resolveFirst_eq_ok_iff :
    a.resolveFirst windowDays today last = .ok first ↔ a.BeginsAt windowDays today last first := by
  unfold resolveFirst BeginsAt
  cases a.first with
  | none =>
      dsimp only
      rw [mapError_eq_ok_iff, Date.daysBefore_eq_ok_iff, ncard_eq_max_iff]
  | some text =>
      dsimp only
      rw [mapError_eq_ok_iff, Date.ofArgument_eq_ok_iff]

theorem resolveFirst_eq_error_iff {e : WindowError} :
    a.resolveFirst windowDays today last = .error e ↔
      (∃ text cause, a.first = some text ∧ Date.Refuses today (trim text.toList) cause ∧ .badFirst cause = e) ∨
        a.first = .none ∧ (∀ d : Date, d.dayNumber + (max windowDays 1 - 1 : Nat) ≠ last.dayNumber) ∧
          .noFirst (.outOfRange (max windowDays 1 - 1) last) = e := by
  unfold resolveFirst
  cases a.first with
  | none => simp [mapError_eq_error_iff, Date.daysBefore_eq_error_iff]
  | some text => simp [mapError_eq_error_iff, Date.ofArgument_eq_error_iff]

theorem resolveClient_eq_ok_iff {client : Option ClientId} :
    a.resolveClient = .ok client ↔ client.map Ident.text = a.client := by
  unfold resolveClient
  cases a.client with
  | none => simp [eq_comm]
  | some text =>
      dsimp only
      by_cases htext : text = ""
      · rw [Ident.ofText, dif_neg (not_not_intro htext), htext]
        constructor
        · intro h
          cases h
        · intro h
          obtain ⟨id, -, hid⟩ := Option.map_eq_some_iff.1 h
          exact absurd hid id.text_ne_empty
      · rw [Ident.ofText, dif_pos htext]
        constructor
        · intro h
          obtain rfl := Except.ok.inj h
          rfl
        · intro h
          obtain ⟨id, rfl, rfl⟩ := Option.map_eq_some_iff.1 h
          rfl

theorem resolveClient_eq_error_iff {e : WindowError} :
    a.resolveClient = .error e ↔ a.client = some "" ∧ .badClient ⟨.client⟩ = e := by
  unfold resolveClient
  cases a.client with
  | none => simp
  | some text =>
      dsimp only
      rw [Option.some.injEq]
      cases hread : Ident.ofText .client text with
      | error cause =>
          obtain ⟨htext, rfl⟩ := Ident.ofText_eq_error_iff.1 hread
          rw [htext, eq_self, true_and]
          exact ⟨Except.error.inj, congrArg Except.error⟩
      | ok id =>
          constructor
          · intro h
            cases h
          · rintro ⟨rfl, -⟩
            cases hread

theorem client_ne_of_resolveClient {client : Option ClientId} (hclient : a.resolveClient = .ok client) :
    a.client ≠ some "" := by
  intro hempty
  rw [resolveClient_eq_error_iff.2 ⟨hempty, rfl⟩] at hclient
  cases hclient

theorem exists_resolveClient (h : a.client ≠ some "") : ∃ client, a.resolveClient = .ok client := by
  cases hclient : a.resolveClient with
  | ok client => exact ⟨client, rfl⟩
  | error e => exact absurd (resolveClient_eq_error_iff.1 hclient).1 h

theorem resolve_eq_ok_iff {w : Window} : a.resolve windowDays today = .ok w ↔ a.Describes windowDays today w := by
  constructor
  · intro h
    obtain ⟨last, hlast, h⟩ := bind_eq_ok_iff.1 h
    obtain ⟨first, hfirst, h⟩ := bind_eq_ok_iff.1 h
    obtain ⟨client, hclient, h⟩ := bind_eq_ok_iff.1 h
    rw [mapError_eq_ok_iff, Window.ofDates] at h
    split at h
    · rename_i hordered
      obtain rfl := Except.ok.inj h
      exact ⟨resolveLast_eq_ok_iff.1 hlast, resolveFirst_eq_ok_iff.1 hfirst, hordered,
        resolveClient_eq_ok_iff.1 hclient, client_ne_of_resolveClient hclient⟩
    · cases h
  · intro h
    rw [resolve, bind_of_eq_ok (resolveLast_eq_ok_iff.2 h.last), bind_of_eq_ok (resolveFirst_eq_ok_iff.2 h.first),
      bind_of_eq_ok (resolveClient_eq_ok_iff.2 h.client), mapError_eq_ok_iff]
    exact dif_pos h.ordered

theorem resolve_eq_error_iff {e : WindowError} :
    a.resolve windowDays today = .error e ↔ a.Refuses windowDays today e := by
  constructor
  · intro h
    -- Step by step: what has succeeded is what the fault knows of the steps in front of it.
    rcases bind_eq_error_iff.1 h with h | ⟨last, hlast, h⟩
    · obtain ⟨text, cause, htext, hcause, rfl⟩ := resolveLast_eq_error_iff.1 h
      exact .badLast htext hcause
    rw [resolveLast_eq_ok_iff] at hlast
    rcases bind_eq_error_iff.1 h with h | ⟨first, hfirst, h⟩
    · rcases resolveFirst_eq_error_iff.1 h with ⟨text, cause, htext, hcause, rfl⟩ | ⟨hfirst, hnone, rfl⟩
      · exact .badFirst hlast htext hcause
      · exact .noFirst hlast hfirst hnone
    rw [resolveFirst_eq_ok_iff] at hfirst
    rcases bind_eq_error_iff.1 h with h | ⟨client, hclient, h⟩
    · obtain ⟨hempty, rfl⟩ := resolveClient_eq_error_iff.1 h
      exact .badClient hlast hfirst hempty
    obtain ⟨cause, hcause, rfl⟩ := mapError_eq_error_iff.1 h
    rw [Window.ofDates] at hcause
    split at hcause
    · cases hcause
    · rename_i hreversed
      obtain rfl := Except.error.inj hcause
      exact .reversed hlast hfirst (client_ne_of_resolveClient hclient) (Decidable.not_not.1 hreversed)
  · intro h
    cases h with
    | badLast htext hcause =>
        exact bind_eq_error_iff.2 (.inl (resolveLast_eq_error_iff.2 ⟨_, _, htext, hcause, rfl⟩))
    | badFirst hlast htext hcause =>
        rw [resolve, bind_of_eq_ok (resolveLast_eq_ok_iff.2 hlast)]
        exact bind_eq_error_iff.2 (.inl (resolveFirst_eq_error_iff.2 (.inl ⟨_, _, htext, hcause, rfl⟩)))
    | noFirst hlast hfirst hnone =>
        rw [resolve, bind_of_eq_ok (resolveLast_eq_ok_iff.2 hlast)]
        exact bind_eq_error_iff.2 (.inl (resolveFirst_eq_error_iff.2 (.inr ⟨hfirst, hnone, rfl⟩)))
    | badClient hlast hfirst hclient =>
        rw [resolve, bind_of_eq_ok (resolveLast_eq_ok_iff.2 hlast), bind_of_eq_ok (resolveFirst_eq_ok_iff.2 hfirst)]
        exact bind_eq_error_iff.2 (.inl (resolveClient_eq_error_iff.2 ⟨hclient, rfl⟩))
    | reversed hlast hfirst hclient hreversed =>
        obtain ⟨client, hclient⟩ := exists_resolveClient hclient
        rw [resolve, bind_of_eq_ok (resolveLast_eq_ok_iff.2 hlast), bind_of_eq_ok (resolveFirst_eq_ok_iff.2 hfirst),
          bind_of_eq_ok hclient, mapError_eq_error_iff]
        exact ⟨_, dif_neg (not_not_intro hreversed), rfl⟩

theorem not_reversed_of_first_eq_none (hfirst : a.first = .none) {e : ReversedWindow} :
    ¬ a.Refuses windowDays today (.reversed e) := by
  intro h
  cases h with
  | reversed hlast hbegins hclient hreversed =>
      simp only [BeginsAt, hfirst, ncard_eq_max_iff] at hbegins
      have hlt := Date.dayNumber_lt_iff.2 hreversed
      omega

/-! ### Numbers in words -/

def resolveLastInWords (a : WindowArguments) (today : Date) : Option (Except WindowError Date) :=
  match a.last with
  | some text => (Date.ofArgumentInWords text today).map (Except.mapError .badLast)
  | .none => some (.ok today)

def resolveFirstInWords (a : WindowArguments) (windowDays : Nat) (today last : Date) :
    Option (Except WindowError Date) :=
  match a.first with
  | some text => (Date.ofArgumentInWords text today).map (Except.mapError .badFirst)
  | .none => do
      let days ← Bound.sub? (max windowDays 1) 1
      (last.daysBeforeInWords days).map (Except.mapError .noFirst)

/-- The window of the arguments, with numbers of days in words. -/
def resolveInWords (a : WindowArguments) (windowDays : Nat) (today : Date) : ExceptT WindowError Option Window := do
  let last ← ExceptT.mk (a.resolveLastInWords today)
  let first ← ExceptT.mk (a.resolveFirstInWords windowDays today last)
  let client ← ExceptT.mk (some a.resolveClient)
  ExceptT.mk (some ((Window.ofDates first last client).mapError .reversed))

theorem resolveLastInWords_eq (a : WindowArguments) (today : Date) :
    a.resolveLastInWords today = some (a.resolveLast today) := by
  unfold resolveLastInWords resolveLast
  cases a.last with
  | none => rfl
  | some text => exact congrArg (Option.map _) (Date.ofArgumentInWords_eq text today)

theorem resolveFirstInWords_eq (a : WindowArguments) (hdays : windowDays < Bound.unsigned32) (today last : Date) :
    a.resolveFirstInWords windowDays today last = some (a.resolveFirst windowDays today last) := by
  unfold resolveFirstInWords resolveFirst
  cases a.first with
  | none =>
      have hsub : Bound.sub? (max windowDays 1) 1 = some (max windowDays 1 - 1) := if_pos (Nat.le_max_right windowDays 1)
      have hfits : max windowDays 1 - 1 < Bound.unsigned32 := by
        simp only [Bound.unsigned32] at hdays ⊢
        omega
      dsimp only
      rw [hsub, Option.bind_eq_bind, Option.bind_some, last.daysBeforeInWords_eq hfits]
      rfl
  | some text => exact congrArg (Option.map _) (Date.ofArgumentInWords_eq text today)

/-- Steps that are the same in words are the same one after the other. -/
theorem run_bind_eq_some {ε α β : Type} {x : Except ε α} {f : α → ExceptT ε Option β} {g : α → Except ε β}
    (h : ∀ y, (f y).run = some (g y)) : (ExceptT.mk (some x) >>= f).run = some (x >>= g) := by
  cases x with
  | error e => rfl
  | ok y => exact h y

theorem resolveInWords_eq (a : WindowArguments) (hdays : windowDays < Bound.unsigned32) (today : Date) :
    (a.resolveInWords windowDays today).run = some (a.resolve windowDays today) := by
  rw [resolveInWords, resolveLastInWords_eq]
  refine run_bind_eq_some fun last => ?_
  rw [resolveFirstInWords_eq a hdays]
  exact run_bind_eq_some fun first => run_bind_eq_some fun client => rfl

end WindowArguments

/-- Arguments lead to the window that they describe or are refused for a reason that there is, never for the order of dates
if the first is not given, and no number overflows on the way. -/
theorem resolved_window_exact (a : WindowArguments) {windowDays : Nat} (hdays : windowDays < Bound.unsigned32)
    (today : Date) :
    (∀ w, a.resolve windowDays today = .ok w ↔ a.Describes windowDays today w) ∧
      (∀ e, a.resolve windowDays today = .error e ↔ a.Refuses windowDays today e) ∧
      (a.first = none → ∀ e, a.resolve windowDays today ≠ .error (.reversed e)) ∧
      (a.resolveInWords windowDays today).run = some (a.resolve windowDays today) := by
  refine ⟨fun w => WindowArguments.resolve_eq_ok_iff, fun e => WindowArguments.resolve_eq_error_iff, ?_,
    a.resolveInWords_eq hdays today⟩
  intro hfirst e h
  exact WindowArguments.not_reversed_of_first_eq_none hfirst (WindowArguments.resolve_eq_error_iff.1 h)

/-- Without any days a window still has the day that it ends at. -/
theorem no_days_are_one :
    0 < Bound.unsigned32 ∧
      WindowArguments.Describes ⟨none, some "yesterday", some "alice"⟩ 0 ⟨2025, 3, 1, by decide⟩
        ⟨⟨2025, 2, 28, by decide⟩, ⟨2025, 2, 28, by decide⟩, some ⟨"alice", by decide⟩, Date.le_refl _⟩ :=
  ⟨by decide, ((resolved_window_exact _ (by decide) _).1 _).1 rfl⟩

end Roster
