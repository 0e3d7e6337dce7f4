import Roster.Proofs.Calendar.Text
import Roster.Proofs.Text.Lines
/-!
# The texts that are read as dates

With tight spacing, a date may be written in more ways than `Date.toText` does: white space may stand in front of each
number, a year without sign may have fewer than four digits and one with a sign any number of them, and a month or a day may
have one digit. `Date.Spells` says this without the reader, which reads exactly these texts (`Date.ofChars_tight_iff`). The
reader takes as many digits as it may; this makes no difference, because behind a number there is a dash or the end.
-/

namespace Roster

namespace Text

/-- Decimal digits, at least one. -/
structure Digits (s : List Char) : Prop where
  ne_nil : s ≠ []
  isDigit : ∀ c ∈ s, c.isDigit = true

/-- A number of at most `width` digits, with white space in front. -/
inductive SpellsNumber (width : Nat) : List Char → Nat → Prop
  | intro {blanks digits : List Char} (hblanks : Blank blanks) (hdigits : Digits digits)
      (hwidth : digits.length ≤ width) : SpellsNumber width (blanks ++ digits) (value digits)

variable {width n : Nat} {s rest : List Char}

theorem isDigit_of_mem_takeDigits {c : Char} (hc : c ∈ (takeDigits width s).1) : c.isDigit = true := by
  fun_induction takeDigits width s with
  | case1 | case2 | case4 => cases hc
  | case3 limit d s hd digits rest htake ih =>
      rw [htake] at ih
      rcases List.mem_cons.1 hc with rfl | hc
      · exact hd
      · exact ih hc

theorem length_takeDigits_le (width : Nat) (s : List Char) : (takeDigits width s).1.length ≤ width := by
  fun_induction takeDigits width s with
  | case1 | case2 | case4 => exact Nat.zero_le _
  | case3 limit d s hd digits rest htake ih =>
      rw [htake] at ih
      exact Nat.succ_le_succ ih

theorem exists_digits_of_scanNumber (hwidth : s ≠ [] → 0 < width) (h : scanNumber width s = .ok (n, rest)) :
    ∃ digits, Digits digits ∧ digits.length ≤ width ∧ s = digits ++ rest ∧ value digits = n := by
  cases s with
  | nil => cases h
  | cons c s =>
      obtain ⟨width, rfl⟩ : ∃ n, width = n + 1 := ⟨width - 1, by have := hwidth (List.cons_ne_nil c s); omega⟩
      cases hc : c.isDigit with
      | false => simp [scanNumber, hc] at h
      | true =>
          have hne : (takeDigits (width + 1) (c :: s)).1 ≠ [] := by
            rw [takeDigits, if_pos hc]
            exact List.cons_ne_nil _ _
          simp only [scanNumber, hc, if_true] at h
          split at h
          · cases h
            exact ⟨_, ⟨hne, fun d hd => isDigit_of_mem_takeDigits hd⟩, length_takeDigits_le _ _,
              (takeDigits_append _ _).symm, rfl⟩
          · cases h

/-- Without a limit, digits are read up to their end. -/
theorem Digits.scanNumber_length (h : Digits s) (hvalue : value s < Bound.signed64) (hrest : EndsNumber rest) :
    scanNumber (s ++ rest).length (s ++ rest) = .ok (value s, rest) := by
  have hwidth : s.length ≤ (s ++ rest).length := by
    rw [List.length_append]
    exact Nat.le_add_right _ _
  exact scanNumber_append h.ne_nil h.isDigit hwidth (.inr hrest) hvalue

theorem exists_spellsNumber_of_scanPart {least greatest : Nat} (h : scanPart least greatest s = .ok (n, rest)) :
    ∃ part, SpellsNumber 2 part n ∧ s = part ++ rest := by
  obtain ⟨blanks, hs, hblanks, -⟩ := exists_dropBlanks s
  obtain ⟨⟨n', rest'⟩, hscan, hbounds⟩ := bind_eq_ok_iff.1 h
  obtain ⟨digits, hdigits, hwidth, hsplit, rfl⟩ := exists_digits_of_scanNumber (fun _ => by decide) hscan
  dsimp only at hbounds
  split at hbounds
  · cases hbounds
    exact ⟨blanks ++ digits, .intro hblanks hdigits hwidth, by rw [List.append_assoc, ← hsplit, ← hs]⟩
  · cases hbounds

theorem SpellsNumber.scanPart {least greatest : Nat} (h : SpellsNumber 2 s n) (hbounds : least ≤ n ∧ n ≤ greatest)
    (hgreatest : greatest < Bound.signed64) (hrest : EndsNumber rest) :
    scanPart least greatest (s ++ rest) = .ok (n, rest) := by
  cases h with
  | intro hblanks hdigits hwidth =>
      rw [Text.scanPart, List.append_assoc, dropBlanks_append hblanks, dropBlanks_digits hdigits.ne_nil hdigits.isDigit,
        bind_of_eq_ok (scanNumber_append hdigits.ne_nil hdigits.isDigit hwidth (.inr hrest) (by omega))]
      exact if_pos hbounds

theorem SpellsNumber.exists_mem_getLast? (h : SpellsNumber width s n) : ∃ c ∈ s.getLast?, c.isDigit = true := by
  cases h with
  | @intro blanks digits hblanks hdigits hwidth =>
      refine ⟨digits.getLast hdigits.ne_nil, ?_, hdigits.isDigit _ (List.getLast_mem _)⟩
      rw [List.getLast?_append, List.getLast?_eq_some_getLast hdigits.ne_nil]
      rfl

end Text

open Text

namespace Date

/-- A year of at most four digits, or of any number of them behind a sign, with white space in front. -/
inductive SpellsYear : List Char → Int → Prop
  | plain {blanks digits : List Char} (hblanks : Blank blanks) (hdigits : Digits digits) (hwidth : digits.length ≤ 4) :
      SpellsYear (blanks ++ digits) (value digits)
  | minus {blanks digits : List Char} (hblanks : Blank blanks) (hdigits : Digits digits) :
      SpellsYear (blanks ++ '-' :: digits) (-(value digits : Int))
  | plus {blanks digits : List Char} (hblanks : Blank blanks) (hdigits : Digits digits) :
      SpellsYear (blanks ++ '+' :: digits) (value digits)

/-- Year, month and day of the date, with a dash between them. -/
inductive Spells : List Char → Date → Prop
  | intro {year month day : List Char} {d : Date} (hyear : SpellsYear year d.year)
      (hmonth : SpellsNumber 2 month d.month) (hday : SpellsNumber 2 day d.day) :
      Spells (year ++ '-' :: (month ++ '-' :: day)) d

variable {s rest : List Char} {year : Int}

theorem checkYear_eq_ok {year' : Int} (h : checkYear year = .ok year') : year = year' := by
  unfold checkYear at h
  split at h
  · exact Except.ok.inj h
  · cases h

/-- The number of a year, with the sign that stands in front of it. -/
theorem exists_digits_of_scanNumber_checkYear {width : Nat} (sign : Int → Int) (hwidth : s ≠ [] → 0 < width)
    (h : (scanNumber width s >>= fun p => checkYear (sign p.1) >>= fun year => .ok (year, p.2)) = .ok (year, rest)) :
    ∃ digits, Digits digits ∧ digits.length ≤ width ∧ s = digits ++ rest ∧ sign (value digits) = year := by
  obtain ⟨⟨n, rest'⟩, hscan, h⟩ := bind_eq_ok_iff.1 h
  obtain ⟨year', hcheck, ⟨⟩⟩ := bind_eq_ok_iff.1 h
  obtain ⟨digits, hdigits, hlength, hs, rfl⟩ := exists_digits_of_scanNumber hwidth hscan
  exact ⟨digits, hdigits, hlength, hs, checkYear_eq_ok hcheck⟩

theorem exists_spellsYear_of_scanYear (h : scanYear s = .ok (year, rest)) :
    ∃ text, SpellsYear text year ∧ s = text ++ rest := by
  obtain ⟨blanks, hs, hblanks, -⟩ := exists_dropBlanks s
  unfold scanYear at h
  generalize dropBlanks s = t at h hs
  subst hs
  split at h
  · obtain ⟨digits, hdigits, -, rfl, rfl⟩ :=
      exists_digits_of_scanNumber_checkYear (fun n => -n) List.length_pos_iff.2 h
    exact ⟨_, .minus hblanks hdigits, by rw [List.append_assoc, List.cons_append]⟩
  · obtain ⟨digits, hdigits, -, rfl, rfl⟩ := exists_digits_of_scanNumber_checkYear id List.length_pos_iff.2 h
    exact ⟨_, .plus hblanks hdigits, by rw [List.append_assoc, List.cons_append]⟩
  · obtain ⟨digits, hdigits, hwidth, rfl, rfl⟩ := exists_digits_of_scanNumber_checkYear id (fun _ => by decide) h
    exact ⟨_, .plain hblanks hdigits hwidth, by rw [List.append_assoc]⟩

theorem scanYear_append {blanks : List Char} (hblanks : Blank blanks) (s : List Char) :
    scanYear (blanks ++ s) = scanYear s := by
  rw [scanYear, scanYear, dropBlanks_append hblanks]

theorem SpellsYear.scanYear (h : SpellsYear s year) (hcheck : checkYear year = .ok year)
    (hvalue : year.natAbs < Bound.signed64) (hrest : EndsNumber rest) : scanYear (s ++ rest) = .ok (year, rest) := by
  cases h with
  | @plain blanks digits hblanks hdigits hwidth =>
      have hscan := scanNumber_append hdigits.ne_nil hdigits.isDigit hwidth (.inr hrest) (by omega)
      obtain ⟨c, digits, rfl⟩ := List.exists_cons_of_ne_nil hdigits.ne_nil
      rw [List.append_assoc, scanYear_append hblanks]
      exact scanYear_digit (hdigits.isDigit c List.mem_cons_self) hscan hcheck
  | @minus blanks digits hblanks hdigits =>
      rw [List.append_assoc, scanYear_append hblanks, List.cons_append, scanYear_minus,
        bind_of_eq_ok (hdigits.scanNumber_length (by omega) hrest)]
      exact bind_of_eq_ok hcheck _
  | @plus blanks digits hblanks hdigits =>
      rw [List.append_assoc, scanYear_append hblanks, List.cons_append, scanYear_plus,
        bind_of_eq_ok (hdigits.scanNumber_length (by omega) hrest)]
      exact bind_of_eq_ok hcheck _

theorem scanChar_eq_ok_iff {c : Char} : scanChar c s = .ok rest ↔ s = c :: rest := by
  cases s with
  | nil => simp [scanChar]
  | cons d s =>
      rw [scanChar, List.cons.injEq]
      split
      · simp [*]
      · simp [*]

theorem scanEnd_eq_ok (h : scanEnd s = .ok ()) : s = [] := by
  cases s with
  | nil => rfl
  | cons c s => cases h

variable {d : Date}

theorem spells_of_ofChars (h : ofChars .tight s = .ok d) : Spells s d := by
  obtain ⟨⟨year, _⟩, hyear, hrest⟩ := bind_eq_ok_iff.1 h
  obtain ⟨_, hdash, hrest⟩ := bind_eq_ok_iff.1 hrest
  obtain ⟨⟨month, _⟩, hmonth, hrest⟩ := bind_eq_ok_iff.1 hrest
  obtain ⟨_, hdash', hrest⟩ := bind_eq_ok_iff.1 hrest
  obtain ⟨⟨day, _⟩, hday, hrest⟩ := bind_eq_ok_iff.1 hrest
  obtain ⟨_, hend, hcivil⟩ := bind_eq_ok_iff.1 hrest
  obtain ⟨yearText, hyearText, rfl⟩ := exists_spellsYear_of_scanYear hyear
  obtain rfl := scanChar_eq_ok_iff.1 hdash
  obtain ⟨monthText, hmonthText, rfl⟩ := exists_spellsNumber_of_scanPart hmonth
  obtain rfl := scanChar_eq_ok_iff.1 hdash'
  obtain ⟨dayText, hdayText, rfl⟩ := exists_spellsNumber_of_scanPart hday
  obtain rfl := scanEnd_eq_ok hend
  split at hcivil
  · rename_i e hcivil'
    obtain rfl := Except.ok.inj hcivil
    obtain ⟨rfl, rfl, rfl⟩ := ofCivil?_eq_some.1 hcivil'
    rw [List.append_nil]
    exact .intro hyearText hmonthText hdayText
  · cases hcivil

theorem Spells.ofChars (h : Spells s d) : ofChars .tight s = .ok d := by
  obtain ⟨hyear, hmonth, hday⟩ := h
  have hyears := d.year_bounds
  have hdays : 1 ≤ d.day ∧ d.day ≤ 31 := ⟨d.day_bounds.1, d.day_le⟩
  have hdash : ∀ rest, EndsNumber ('-' :: rest) := fun rest => endsNumber_cons rest rfl
  have hyearRead := fun rest => hyear.scanYear d.checkYear_year (by simp only [Bound.signed64]; omega) (hdash rest)
  have hmonthRead := fun rest => hmonth.scanPart d.month_bounds (by decide) (hdash rest)
  have hdayRead := hday.scanPart hdays (by decide) endsNumber_nil
  rw [List.append_nil] at hdayRead
  simp only [Date.ofChars, hyearRead, bind, Except.bind, Spacing.gap, scanChar, if_true, hmonthRead, hdayRead, scanEnd,
    ofCivil?_parts]

/-- The texts that are read as a date are those that spell it. -/
theorem ofChars_tight_iff : Date.ofChars .tight s = .ok d ↔ Spells s d := ⟨spells_of_ofChars, Spells.ofChars⟩

/-- The text of a date ends with a digit. -/
theorem Spells.exists_mem_getLast? (h : Spells s d) : ∃ c ∈ s.getLast?, c.isDigit = true := by
  obtain ⟨hyear, hmonth, hday⟩ := h
  obtain ⟨c, hlast, hc⟩ := hday.exists_mem_getLast?
  refine ⟨c, ?_, hc⟩
  simp [List.getLast?_append, List.getLast?_cons, Option.mem_def.1 hlast]

end Date

end Roster
