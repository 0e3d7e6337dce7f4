import Roster.Proofs.Arguments.Relative
import Roster.Proofs.Calendar.Numbering
/-!
# What a date argument means

An argument is `today`, `yesterday`, a date, or a number of days or weeks ago. The forms are tried one after the other, but
no text has two of them: a date ends with a digit, the relative form with an `o` and both words with a `y`. So each form can
be read on its own (`Date.ofArgument_of_spells`, `Date.ofArgument_of_relative`), and what an argument means (`Date.Means`) or
why it is refused (`Date.Refuses`) is said without an order.

`Date.ofArgumentInWords` counts in words of 64 bits and gives up on a product or a difference that does not fit. It never
has to: numbers of units are bounded before they are multiplied, and the days of the calendar lie close together.
-/

namespace Roster

open Text

namespace Bound

/-- The product of two numbers, if it fits a word of 64 bits without sign. -/
def mul? (m n : Nat) : Option Nat := if m * n < unsigned64 then some (m * n) else none

theorem mul?_eq {m n : Nat} (h : m * n < unsigned64) : mul? m n = some (m * n) := if_pos h

end Bound

theorem DateUnit.days_pos (unit : DateUnit) : 0 < unit.days := by
  cases unit <;> decide

/-! ### Counting days back -/

namespace Date

variable {today d : Date} {days : Nat}

theorem daysBefore_eq_ok_iff : today.daysBefore days = .ok d ↔ d.dayNumber + days = today.dayNumber := by
  rw [← daysBefore?_eq_some_iff]
  unfold daysBefore
  generalize today.daysBefore? days = found
  cases found with
  | none => exact ⟨nofun, nofun⟩
  | some e => exact ⟨fun h => congrArg some (Except.ok.inj h), fun h => congrArg Except.ok (Option.some.inj h)⟩

theorem daysBefore_eq_error_iff {e : DateError} :
    today.daysBefore days = .error e ↔
      (∀ d : Date, d.dayNumber + days ≠ today.dayNumber) ∧ e = .outOfRange days today := by
  simp only [ne_eq, ← daysBefore?_eq_some_iff]
  unfold daysBefore
  generalize today.daysBefore? days = found
  cases found with
  | none => simp [eq_comm]
  | some e => simp

theorem dayNumber_bounds (d : Date) : -100000000 ≤ d.dayNumber ∧ d.dayNumber ≤ 100000000 := by
  have hyear := d.year_bounds
  have hmonth := d.month_bounds
  have hday := d.day_bounds
  have hrest := Calendar.daysBeforeMonth_add_le d.year hmonth.1 (show d.month < 13 by omega)
  have hnext := Calendar.yearStart_succ d.year
  simp only [dayNumber, Calendar.yearStart] at hnext ⊢
  omega

/-- The days before a date, with numbers of days in words of 64 bits that have a sign. -/
def daysBeforeInWords (today : Date) (days : Nat) : Option (Except DateError Date) :=
  if Bound.Fits Bound.signed64 (today.dayNumber - days) then some (today.daysBefore days) else none

theorem daysBeforeInWords_eq (today : Date) (hdays : days < Bound.unsigned32) :
    today.daysBeforeInWords days = some (today.daysBefore days) := by
  have hbounds := today.dayNumber_bounds
  apply if_pos
  simp only [Bound.unsigned32] at hdays
  simp only [Bound.Fits, Bound.signed64]
  omega

end Date

/-! ### The relative form -/

namespace RelativeDate

/-- The date lies so many units before today, and the number of units was not too large. -/
structure Means (r : RelativeDate) (today d : Date) : Prop where
  isDigit : ∀ c ∈ r.digits, c.isDigit = true
  bound : value r.digits ≤ 365000 / r.unit.days
  dayNumber : d.dayNumber + value r.digits * r.unit.days = today.dayNumber

/-- Why there is no such date. -/
inductive Refuses (r : RelativeDate) (today : Date) : DateError → Prop
  | number {cause : NumberError} (hcause : BadNumber r.digits cause) : Refuses r today (.number cause)
  | tooLarge {n : Nat} (hn : SpellsWord r.digits n) (hbound : 365000 / r.unit.days < n) :
      Refuses r today (.tooLarge n r.unit)
  | outOfRange {n : Nat} (hn : SpellsWord r.digits n) (hbound : n ≤ 365000 / r.unit.days)
      (hfirst : ∀ d : Date, d.dayNumber + n * r.unit.days ≠ today.dayNumber) :
      Refuses r today (.outOfRange (n * r.unit.days) today)

variable {r : RelativeDate} {today d : Date}

theorem resolve_of_spellsWord {n : Nat} (hn : SpellsWord r.digits n) (today : Date) :
    r.resolve today =
      if 365000 / r.unit.days < n then .error (.tooLarge n r.unit) else today.daysBefore (n * r.unit.days) := by
  rw [resolve, readNumber_eq_ok_iff.2 hn]
  rfl

theorem resolve_of_badNumber {cause : NumberError} (hcause : BadNumber r.digits cause) (today : Date) :
    r.resolve today = .error (.number cause) := by
  rw [resolve, readNumber_eq_error_iff.2 hcause]

theorem spellsWord_or_badNumber (digits : List Char) :
    (∃ n, SpellsWord digits n) ∨ ∃ cause, BadNumber digits cause := by
  cases hread : readNumber 0 digits with
  | ok n => exact .inl ⟨n, readNumber_eq_ok_iff.1 hread⟩
  | error cause => exact .inr ⟨cause, readNumber_eq_error_iff.1 hread⟩

/-- Numbers that are not too large fit a word. -/
theorem Means.spellsWord (h : r.Means today d) : SpellsWord r.digits (value r.digits) := by
  have hbound := Nat.le_trans h.bound (Nat.div_le_self 365000 r.unit.days)
  exact ⟨h.isDigit, rfl, Nat.lt_of_le_of_lt hbound (by decide)⟩

theorem resolve_eq_ok_iff : r.resolve today = .ok d ↔ r.Means today d := by
  constructor
  · intro h
    rcases spellsWord_or_badNumber r.digits with ⟨n, hn⟩ | ⟨cause, hcause⟩
    · rw [resolve_of_spellsWord hn] at h
      split at h
      · cases h
      · rename_i hbound
        obtain rfl := hn.value
        exact ⟨hn.isDigit, Nat.le_of_not_lt hbound, Date.daysBefore_eq_ok_iff.1 h⟩
    · rw [resolve_of_badNumber hcause] at h
      cases h
  · intro h
    rw [resolve_of_spellsWord h.spellsWord, if_neg (Nat.not_lt.2 h.bound), Date.daysBefore_eq_ok_iff]
    exact h.dayNumber

theorem resolve_eq_error_iff {e : DateError} : r.resolve today = .error e ↔ r.Refuses today e := by
  constructor
  · intro h
    rcases spellsWord_or_badNumber r.digits with ⟨n, hn⟩ | ⟨cause, hcause⟩
    · rw [resolve_of_spellsWord hn] at h
      split at h
      · rename_i hbound
        obtain rfl := Except.error.inj h
        exact .tooLarge hn hbound
      · rename_i hbound
        obtain ⟨hfirst, rfl⟩ := Date.daysBefore_eq_error_iff.1 h
        exact .outOfRange hn (Nat.le_of_not_lt hbound) hfirst
    · rw [resolve_of_badNumber hcause] at h
      obtain rfl := Except.error.inj h
      exact .number hcause
  · intro h
    cases h with
    | number hcause => exact resolve_of_badNumber hcause today
    | tooLarge hn hbound => rw [resolve_of_spellsWord hn, if_pos hbound]
    | outOfRange hn hbound hfirst =>
        rw [resolve_of_spellsWord hn, if_neg (Nat.not_lt.2 hbound), Date.daysBefore_eq_error_iff]
        exact ⟨hfirst, rfl⟩

/-- The date of a relative date, with the number of days in words of 64 bits. -/
def resolveInWords (r : RelativeDate) (today : Date) : Option (Except DateError Date) :=
  match readNumber 0 r.digits with
  | .error cause => some (.error (.number cause))
  | .ok n =>
      if greatestDays / r.unit.days < n then some (.error (.tooLarge n r.unit))
      else (Bound.mul? n r.unit.days).bind today.daysBeforeInWords

theorem resolveInWords_eq (r : RelativeDate) (today : Date) : r.resolveInWords today = some (r.resolve today) := by
  unfold resolveInWords resolve
  cases readNumber 0 r.digits with
  | error cause => rfl
  | ok n =>
      dsimp only
      split
      · rfl
      · rename_i hbound
        have hdays : n * r.unit.days ≤ greatestDays :=
          (Nat.le_div_iff_mul_le r.unit.days_pos).1 (Nat.le_of_not_lt hbound)
        rw [Bound.mul?_eq (Nat.lt_of_le_of_lt hdays (by decide))]
        exact Date.daysBeforeInWords_eq today (Nat.lt_of_le_of_lt hdays (by decide))

end RelativeDate

/-! ### Arguments -/

/-- The text of a date in the relative form ends with `ago`. -/
theorem RelativeDate.Spells.getLast? {s : List Char} {r : RelativeDate} (h : RelativeDate.Spells s r) :
    s.getLast? = some 'o' := by
  cases h
  simp [List.getLast?_append]

namespace Date

/-- The date that a text without white space around it means. -/
inductive Means (today : Date) : List Char → Date → Prop
  | today : Means today "today".toList today
  | yesterday {d : Date} (hd : d.dayNumber + 1 = today.dayNumber) : Means today "yesterday".toList d
  | date {s : List Char} {d : Date} (hs : Spells s d) : Means today s d
  | ago {s : List Char} {r : RelativeDate} {d : Date} (hs : RelativeDate.Spells s r) (hr : r.Means today d) :
      Means today s d

/-- Why a text means no date. -/
inductive Refuses (today : Date) : List Char → DateError → Prop
  | yesterday (hfirst : ∀ d : Date, d.dayNumber + 1 ≠ today.dayNumber) :
      Refuses today "yesterday".toList (.outOfRange 1 today)
  | ago {s : List Char} {r : RelativeDate} {e : DateError} (hs : RelativeDate.Spells s r) (hr : r.Refuses today e) :
      Refuses today s e
  | unknownForm {s : List Char} (htoday : s ≠ "today".toList) (hyesterday : s ≠ "yesterday".toList)
      (hdate : ∀ d, ¬ Spells s d) (hago : ∀ r, ¬ RelativeDate.Spells s r) :
      Refuses today s (.unknownForm (String.ofList s))

variable {text : String} {today d : Date}

theorem ofArgument_of_today (hs : trim text.toList = "today".toList) (today : Date) :
    ofArgument text today = .ok today := by
  rw [ofArgument, hs]
  rfl

theorem ofArgument_of_yesterday (hs : trim text.toList = "yesterday".toList) (today : Date) :
    ofArgument text today = today.daysBefore 1 := by
  rw [ofArgument, hs]
  rfl

theorem ne_words_of_getLast? {s : List Char} {c : Char} (hc : c ∈ s.getLast?) (hy : c ≠ 'y') :
    s ≠ "today".toList ∧ s ≠ "yesterday".toList := by
  constructor <;> rintro rfl <;> exact hy (Option.some.inj hc).symm

theorem ofArgument_of_ne_words (htoday : trim text.toList ≠ "today".toList)
    (hyesterday : trim text.toList ≠ "yesterday".toList) (today : Date) :
    ofArgument text today =
      match ofChars .tight (trim text.toList) with
      | .ok d => .ok d
      | .error _ =>
          match RelativeDate.ofChars? (trim text.toList) with
          | some r => r.resolve today
          | none => .error (.unknownForm (String.ofList (trim text.toList))) :=
  (if_neg htoday).trans (if_neg hyesterday)

theorem ofArgument_of_spells (hs : Spells (trim text.toList) d) (today : Date) : ofArgument text today = .ok d := by
  obtain ⟨c, hc, hdigit⟩ := hs.exists_mem_getLast?
  obtain ⟨htoday, hyesterday⟩ := ne_words_of_getLast? hc (by rintro rfl; cases hdigit)
  rw [ofArgument_of_ne_words htoday hyesterday, ofChars_tight_iff.2 hs]

theorem ofArgument_of_relative {r : RelativeDate} (hs : RelativeDate.Spells (trim text.toList) r) (today : Date) :
    ofArgument text today = r.resolve today := by
  have hlast := hs.getLast?
  obtain ⟨htoday, hyesterday⟩ := ne_words_of_getLast? hlast (by decide)
  rw [ofArgument_of_ne_words htoday hyesterday, RelativeDate.ofChars?_eq_some_iff.2 hs]
  cases hdate : ofChars .tight (trim text.toList) with
  | error e => rfl
  | ok d =>
      obtain ⟨c, hc, hdigit⟩ := (spells_of_ofChars hdate).exists_mem_getLast?
      rw [hlast] at hc
      cases hc
      cases hdigit

theorem ofArgument_of_unknownForm (htoday : trim text.toList ≠ "today".toList)
    (hyesterday : trim text.toList ≠ "yesterday".toList) (hdate : ∀ d, ¬ Spells (trim text.toList) d)
    (hago : ∀ r, ¬ RelativeDate.Spells (trim text.toList) r) (today : Date) :
    ofArgument text today = .error (.unknownForm (String.ofList (trim text.toList))) := by
  have hrelative : RelativeDate.ofChars? (trim text.toList) = none :=
    Option.eq_none_iff_forall_ne_some.2 fun r hr => hago r (RelativeDate.spells_of_ofChars? hr)
  rw [ofArgument_of_ne_words htoday hyesterday, hrelative]
  cases hread : ofChars .tight (trim text.toList) with
  | error e => rfl
  | ok d => exact absurd (spells_of_ofChars hread) (hdate d)

/-- What comes out of an argument is right, whichever form it has. -/
theorem means_or_refuses (text : String) (today : Date) :
    (∃ d, ofArgument text today = .ok d ∧ Means today (trim text.toList) d) ∨
      ∃ e, ofArgument text today = .error e ∧ Refuses today (trim text.toList) e := by
  -- Both words are told apart from the other forms only by their letters, so they come first.
  by_cases htoday : trim text.toList = "today".toList
  · rw [ofArgument_of_today htoday, htoday]
    exact .inl ⟨today, rfl, .today⟩
  by_cases hyesterday : trim text.toList = "yesterday".toList
  · rw [ofArgument_of_yesterday hyesterday, hyesterday]
    cases hresult : today.daysBefore 1 with
    | ok d => exact .inl ⟨d, rfl, .yesterday (daysBefore_eq_ok_iff.1 hresult)⟩
    | error e =>
        obtain ⟨hfirst, rfl⟩ := daysBefore_eq_error_iff.1 hresult
        exact .inr ⟨_, rfl, .yesterday hfirst⟩
  by_cases hdate : ∃ d, Spells (trim text.toList) d
  · obtain ⟨d, hd⟩ := hdate
    exact .inl ⟨d, ofArgument_of_spells hd today, .date hd⟩
  by_cases hago : ∃ r, RelativeDate.Spells (trim text.toList) r
  · obtain ⟨r, hr⟩ := hago
    rw [ofArgument_of_relative hr]
    cases hresult : r.resolve today with
    | ok d => exact .inl ⟨d, rfl, .ago hr (RelativeDate.resolve_eq_ok_iff.1 hresult)⟩
    | error e => exact .inr ⟨e, rfl, .ago hr (RelativeDate.resolve_eq_error_iff.1 hresult)⟩
  have hdate := not_exists.1 hdate
  have hago := not_exists.1 hago
  refine .inr ⟨_, ofArgument_of_unknownForm htoday hyesterday hdate hago today, ?_⟩
  exact .unknownForm htoday hyesterday hdate hago

theorem ofArgument_eq_ok_iff : ofArgument text today = .ok d ↔ Means today (trim text.toList) d := by
  constructor
  · intro h
    rcases means_or_refuses text today with ⟨d', hd', hmeans⟩ | ⟨e, he, -⟩
    · rw [hd'] at h
      exact Except.ok.inj h ▸ hmeans
    · rw [he] at h
      cases h
  · intro h
    generalize hs : trim text.toList = s at h
    cases h with
    | today => exact ofArgument_of_today hs today
    | yesterday hd =>
        rw [ofArgument_of_yesterday hs, daysBefore_eq_ok_iff]
        exact hd
    | date hdate => exact ofArgument_of_spells (hs ▸ hdate) today
    | ago hago hr =>
        rw [ofArgument_of_relative (hs ▸ hago), RelativeDate.resolve_eq_ok_iff]
        exact hr

theorem ofArgument_eq_error_iff {e : DateError} :
    ofArgument text today = .error e ↔ Refuses today (trim text.toList) e := by
  constructor
  · intro h
    rcases means_or_refuses text today with ⟨d, hd, -⟩ | ⟨e', he', hrefuses⟩
    · rw [hd] at h
      cases h
    · rw [he'] at h
      exact Except.error.inj h ▸ hrefuses
  · intro h
    generalize hs : trim text.toList = s at h
    cases h with
    | yesterday hfirst =>
        rw [ofArgument_of_yesterday hs, daysBefore_eq_error_iff]
        exact ⟨hfirst, rfl⟩
    | ago hago hr =>
        rw [ofArgument_of_relative (hs ▸ hago), RelativeDate.resolve_eq_error_iff]
        exact hr
    | unknownForm htoday hyesterday hdate hago =>
        subst hs
        exact ofArgument_of_unknownForm htoday hyesterday hdate hago today

/-- The date of an argument, with the number of days in words of 64 bits. -/
def ofArgumentInWords (text : String) (today : Date) : Option (Except DateError Date) :=
  let s := trim text.toList
  if s = ['t', 'o', 'd', 'a', 'y'] then some (.ok today)
  else if s = ['y', 'e', 's', 't', 'e', 'r', 'd', 'a', 'y'] then today.daysBeforeInWords 1
  else
    match ofChars .tight s with
    | .ok d => some (.ok d)
    | .error _ =>
        match RelativeDate.ofChars? s with
        | some r => r.resolveInWords today
        | none => some (.error (.unknownForm (String.ofList s)))

theorem ofArgumentInWords_eq (text : String) (today : Date) :
    ofArgumentInWords text today = some (ofArgument text today) := by
  rw [ofArgumentInWords, ofArgument, apply_ite some, apply_ite some]
  refine if_congr Iff.rfl rfl (if_congr Iff.rfl (today.daysBeforeInWords_eq (by decide)) ?_)
  cases ofChars .tight (trim text.toList) with
  | ok d => rfl
  | error e =>
      cases RelativeDate.ofChars? (trim text.toList) with
      | some r => exact r.resolveInWords_eq today
      | none => rfl

end Date

/-- An argument is read as the date that it means and refused for a reason that there is, and no number overflows on the
way. -/
theorem date_arguments_exact (text : String) (today : Date) :
    (∀ d, Date.ofArgument text today = .ok d ↔ Date.Means today (trim text.toList) d) ∧
      (∀ e, Date.ofArgument text today = .error e ↔ Date.Refuses today (trim text.toList) e) ∧
      Date.ofArgumentInWords text today = some (Date.ofArgument text today) :=
  ⟨fun _ => Date.ofArgument_eq_ok_iff, fun _ => Date.ofArgument_eq_error_iff, Date.ofArgumentInWords_eq text today⟩

/-- The digit is recognised as one, but it makes no number. -/
example : Date.ofArgument "\u0663 days ago" ⟨2025, 3, 10, by decide⟩ = .error (.number .invalidDigit) := rfl

end Roster
