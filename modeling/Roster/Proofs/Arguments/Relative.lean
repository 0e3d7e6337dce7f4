import Mathlib.Data.List.Induction
import Roster.Arguments.Date
import Roster.Proofs.Calendar.Reading
/-!
# Dates in the relative form

`RelativeDate.Spells` says how a number of days or weeks ago is written, without the reader, which reads exactly these
texts (`RelativeDate.ofChars?_eq_some_iff`). The reader takes as many digits and as much white space as there is; this makes
no difference, because behind the digits there is white space and behind white space a letter.

The digits are of any script at first. They are a number if all of them belong to ASCII and their value fits a word
(`RelativeDate.readNumber_eq_ok_iff`); otherwise the first digit that breaks this is the error (`BadNumber`).
-/

namespace Roster

namespace Text

/-- White space, at least one character of it. -/
structure Gap (s : List Char) : Prop where
  ne_nil : s ≠ []
  blank : Blank s

/-- Digits of ASCII whose value fits a word of 64 bits. -/
structure SpellsWord (digits : List Char) (n : Nat) : Prop where
  isDigit : ∀ c ∈ digits, c.isDigit = true
  value : value digits = n
  fits : n < Bound.unsigned64

/-- Digits that are no such number. What stands in front of the first one that is wrong still is. -/
inductive BadNumber : List Char → NumberError → Prop
  | invalidDigit {before after : List Char} {c : Char} {n : Nat} (hbefore : SpellsWord before n)
      (hc : c.isDigit = false) : BadNumber (before ++ c :: after) .invalidDigit
  | tooLarge {before after : List Char} {c : Char} {n : Nat} (hbefore : SpellsWord before n) (hc : c.isDigit = true)
      (hvalue : Bound.unsigned64 ≤ Text.value (before ++ [c])) : BadNumber (before ++ c :: after) .tooLarge

theorem value_append_singleton (digits : List Char) (c : Char) :
    value (digits ++ [c]) = value digits * 10 + value [c] := by
  rw [value, Nat.ofDigitChars_append, value, value]
  simp [Nat.ofDigitChars_cons]
  omega

theorem spellsWord_append_singleton_iff {s : List Char} {c : Char} {n : Nat} :
    SpellsWord (s ++ [c]) n ↔
      ∃ m, SpellsWord s m ∧ c.isDigit = true ∧ m * 10 + value [c] = n ∧ n < Bound.unsigned64 := by
  constructor
  · rintro ⟨hdigits, hvalue, hfits⟩
    obtain ⟨hs, hc⟩ := List.forall_mem_append.1 hdigits
    rw [value_append_singleton] at hvalue
    exact ⟨value s, ⟨hs, rfl, by omega⟩, hc c (List.mem_singleton_self c), hvalue, hfits⟩
  · rintro ⟨m, ⟨hs, rfl, -⟩, hc, rfl, hfits⟩
    exact ⟨List.forall_mem_append.2 ⟨hs, List.forall_mem_singleton.2 hc⟩, value_append_singleton s c, hfits⟩

theorem BadNumber.append {s : List Char} {e : NumberError} (h : BadNumber s e) (t : List Char) :
    BadNumber (s ++ t) e := by
  cases h with
  | invalidDigit hbefore hc =>
      rw [List.append_assoc]
      exact .invalidDigit hbefore hc
  | tooLarge hbefore hc hvalue =>
      rw [List.append_assoc]
      exact .tooLarge hbefore hc hvalue

end Text

open Text

variable {s rest : List Char}

theorem stripWord_eq_some_iff {word : List Char} : stripWord word s = some rest ↔ s = word ++ rest := by
  fun_induction stripWord word s with
  | case1 s => exact Option.some_inj
  | case2 c word s ih => rw [ih, List.cons_append, List.cons.injEq, eq_self, true_and]
  | case3 c word d s hne =>
      rw [List.cons_append, List.cons.injEq]
      exact ⟨nofun, fun h => absurd h.1.symm hne⟩
  | case4 c word => exact ⟨nofun, nofun⟩

theorem exists_gap_of_stripBlanks (h : stripBlanks s = some rest) : ∃ gap, Gap gap ∧ s = gap ++ rest := by
  cases s with
  | nil => cases h
  | cons c s =>
      rw [stripBlanks] at h
      split at h
      · rename_i hc
        obtain ⟨blanks, hs, hblanks, -⟩ := exists_dropBlanks s
        obtain rfl := Option.some.inj h
        refine ⟨c :: blanks, ⟨List.cons_ne_nil c blanks, List.forall_mem_cons.2 ⟨hc, hblanks⟩⟩, ?_⟩
        rw [List.cons_append, ← hs]
      · cases h

theorem stripBlanks_append {gap : List Char} (hgap : Gap gap) (hrest : ∀ c ∈ rest.head?, isBlank c = false) :
    stripBlanks (gap ++ rest) = some rest := by
  obtain ⟨hne, hblank⟩ := hgap
  obtain ⟨c, gap, rfl⟩ := List.exists_cons_of_ne_nil hne
  obtain ⟨hc, hgap⟩ := List.forall_mem_cons.1 hblank
  rw [List.cons_append, stripBlanks, if_pos hc, dropBlanks_append hgap, dropBlanks_of_head hrest]

namespace RelativeDate

/-- Digits of any script, `day` or `week`, perhaps in the plural, and `ago`, with white space between them. -/
inductive Spells : List Char → RelativeDate → Prop
  | intro {r : RelativeDate} {gap plural gap' : List Char} (hne : r.digits ≠ [])
      (hnumerals : ∀ c ∈ r.digits, isNumeral c = true) (hgap : Gap gap) (hplural : plural = [] ∨ plural = ['s'])
      (hgap' : Gap gap') :
      Spells (r.digits ++ (gap ++ (r.unit.name.toList ++ (plural ++ (gap' ++ "ago".toList))))) r

variable {r : RelativeDate}

theorem unitAndRest_eq_some_iff {unit : DateUnit} :
    unitAndRest s = some (unit, rest) ↔ s = unit.name.toList ++ rest := by
  unfold unitAndRest
  cases unit with
  | day =>
      rw [show DateUnit.day.name.toList = ['d', 'a', 'y'] from rfl, ← stripWord_eq_some_iff]
      cases stripWord ['d', 'a', 'y'] s <;> simp
  | week =>
      rw [show DateUnit.week.name.toList = ['w', 'e', 'e', 'k'] from rfl, ← stripWord_eq_some_iff]
      cases hday : stripWord ['d', 'a', 'y'] s with
      | none => simp
      | some rest' =>
          obtain rfl := stripWord_eq_some_iff.1 hday
          simp [stripWord]

theorem exists_plural (s : List Char) : ∃ plural, (plural = [] ∨ plural = ['s']) ∧ s = plural ++ dropPlural s := by
  unfold dropPlural
  split
  · exact ⟨['s'], .inr rfl, rfl⟩
  · exact ⟨[], .inl rfl, rfl⟩

theorem dropPlural_append {plural gap : List Char} (hplural : plural = [] ∨ plural = ['s']) (hgap : Gap gap) :
    dropPlural (plural ++ (gap ++ rest)) = gap ++ rest := by
  obtain ⟨hne, hblank⟩ := hgap
  obtain ⟨c, gap, rfl⟩ := List.exists_cons_of_ne_nil hne
  have hc : c ≠ 's' := by
    rintro rfl
    exact absurd (hblank 's' List.mem_cons_self) (by decide)
  rcases hplural with rfl | rfl
  · simp [dropPlural, hc]
  · rfl

theorem spells_of_ofChars? (h : ofChars? s = some r) : Spells s r := by
  have hsplit : s.takeWhile isNumeral ++ s.dropWhile isNumeral = s := List.takeWhile_append_dropWhile
  have hnumerals : ∀ c ∈ s.takeWhile isNumeral, isNumeral c = true := List.all_eq_true.1 List.all_takeWhile
  unfold ofChars? at h
  dsimp only at h
  generalize s.takeWhile isNumeral = digits, s.dropWhile isNumeral = afterDigits at h hsplit hnumerals
  split at h
  · cases h
  · rename_i hdigits
    obtain ⟨afterGap, hgap, h⟩ := Option.bind_eq_some_iff.1 h
    obtain ⟨⟨unit, afterUnit⟩, hunit, h⟩ := Option.bind_eq_some_iff.1 h
    obtain ⟨afterGap', hgap', h⟩ := Option.bind_eq_some_iff.1 h
    obtain ⟨rest, hago, h⟩ := Option.bind_eq_some_iff.1 h
    split at h
    · rename_i hrest
      obtain rfl := Option.some.inj h
      obtain ⟨gap, hblank, rfl⟩ := exists_gap_of_stripBlanks hgap
      obtain rfl := unitAndRest_eq_some_iff.1 hunit
      obtain ⟨plural, hplural, hafterUnit⟩ := exists_plural afterUnit
      obtain ⟨gap', hblank', hafterPlural⟩ := exists_gap_of_stripBlanks hgap'
      obtain rfl := stripWord_eq_some_iff.1 hago
      obtain rfl := List.isEmpty_iff.1 hrest
      rw [List.append_nil] at hafterPlural
      rw [← hsplit, hafterUnit, hafterPlural]
      exact Spells.intro (r := ⟨digits, unit⟩) (mt List.isEmpty_iff.2 hdigits) hnumerals hblank hplural hblank'
    · cases h

/-- The digits end where the white space begins. -/
theorem span_numerals {digits gap : List Char} (rest : List Char) (hnumerals : ∀ c ∈ digits, isNumeral c = true)
    (hgap : Gap gap) :
    (digits ++ (gap ++ rest)).takeWhile isNumeral = digits ∧
      (digits ++ (gap ++ rest)).dropWhile isNumeral = gap ++ rest := by
  obtain ⟨hne, hblank⟩ := hgap
  obtain ⟨c, gap, rfl⟩ := List.exists_cons_of_ne_nil hne
  have hc : isNumeral c = false := by
    cases hc : isNumeral c with
    | false => rfl
    | true => rw [← hblank c List.mem_cons_self, isBlank_eq_false_of_isNumeral hc]
  rw [List.takeWhile_append_of_pos hnumerals, List.dropWhile_append_of_pos hnumerals]
  simp [hc]

theorem Spells.ofChars? (h : Spells s r) : ofChars? s = some r := by
  cases h with
  | @intro r gap plural gap' hne hnumerals hgap hplural hgap' =>
      obtain ⟨htake, hdrop⟩ := span_numerals (r.unit.name.toList ++ (plural ++ (gap' ++ "ago".toList))) hnumerals hgap
      have hunit : ∀ rest, ∀ c ∈ (r.unit.name.toList ++ rest).head?, isBlank c = false := by
        intro rest c hc
        cases hr : r.unit <;> rw [hr] at hc <;> cases hc <;> rfl
      have hstrip := stripBlanks_append hgap (hunit (plural ++ (gap' ++ "ago".toList)))
      have hstrip' : stripBlanks (gap' ++ "ago".toList) = some "ago".toList := by
        apply stripBlanks_append hgap'
        intro c hc
        cases hc
        rfl
      have hago : stripWord ['a', 'g', 'o'] "ago".toList = some [] := rfl
      simp only [RelativeDate.ofChars?, htake, hdrop, hstrip, unitAndRest_eq_some_iff.2 rfl,
        dropPlural_append hplural hgap', hstrip', hago, bind, Option.bind, List.isEmpty_iff, hne, if_true, if_false]

/-- The texts that are read as a relative date are those that spell it. -/
theorem ofChars?_eq_some_iff : ofChars? s = some r ↔ Spells s r := ⟨spells_of_ofChars?, Spells.ofChars?⟩

/-! ### Numbers -/

theorem readNumber_append (n : Nat) (s t : List Char) :
    readNumber n (s ++ t) = (readNumber n s >>= fun m => readNumber m t) := by
  fun_induction readNumber n s with
  | case1 n => rfl
  | case2 n c s hc next hnext ih =>
      rw [List.cons_append, readNumber, if_pos hc, ← ih]
      exact if_pos hnext
  | case3 n c s hc next hnext =>
      rw [List.cons_append, readNumber, if_pos hc]
      exact if_neg hnext
  | case4 n c s hc =>
      rw [List.cons_append, readNumber, if_neg hc]
      rfl

variable {n : Nat}

theorem readNumber_eq_ok_iff : readNumber 0 s = .ok n ↔ SpellsWord s n := by
  -- The value of a text grows at its end, so the induction takes the last digit off.
  induction s using List.reverseRecOn generalizing n with
  | nil =>
      constructor
      · intro h
        obtain rfl := Except.ok.inj h
        exact ⟨nofun, rfl, by decide⟩
      · rintro ⟨-, rfl, -⟩
        rfl
  | append_singleton s c ih =>
      rw [readNumber_append, bind_eq_ok_iff, spellsWord_append_singleton_iff]
      refine exists_congr fun m => and_congr ih ?_
      rw [readNumber]
      cases hc : c.isDigit with
      | false => simp
      | true =>
          rcases Nat.lt_or_ge (m * 10 + value [c]) Bound.unsigned64 with hfits | hfits
          · simp only [hfits, if_true, readNumber, Except.ok.injEq, true_and]
            exact ⟨fun h => ⟨h, h ▸ hfits⟩, And.left⟩
          · simp only [Nat.not_lt.2 hfits, if_true, if_false, true_and]
            exact ⟨nofun, fun h => absurd (h.1 ▸ h.2) (Nat.not_lt.2 hfits)⟩

theorem readNumber_eq_error_iff {e : NumberError} : readNumber 0 s = .error e ↔ BadNumber s e := by
  constructor
  · intro h
    induction s using List.reverseRecOn with
    | nil => cases h
    | append_singleton s c ih =>
        rw [readNumber_append] at h
        cases hread : readNumber 0 s with
        | error e' =>
            rw [hread] at h
            obtain rfl := Except.error.inj h
            exact (ih hread).append [c]
        | ok m =>
            have hs := readNumber_eq_ok_iff.1 hread
            rw [bind_of_eq_ok hread, readNumber] at h
            split at h
            · rename_i hc
              dsimp only at h
              split at h
              · cases h
              · rename_i hvalue
                obtain rfl := Except.error.inj h
                refine .tooLarge hs hc ?_
                rw [value_append_singleton, hs.value]
                exact Nat.le_of_not_lt hvalue
            · rename_i hc
              obtain rfl := Except.error.inj h
              exact .invalidDigit hs (eq_false_of_ne_true hc)
  · intro h
    cases h with
    | invalidDigit hbefore hc =>
        rw [readNumber_append, bind_of_eq_ok (readNumber_eq_ok_iff.2 hbefore), readNumber, if_neg (by rw [hc]; decide)]
    | tooLarge hbefore hc hvalue =>
        rw [value_append_singleton, hbefore.value] at hvalue
        rw [readNumber_append, bind_of_eq_ok (readNumber_eq_ok_iff.2 hbefore), readNumber, if_pos hc]
        exact if_neg (Nat.not_lt.2 hvalue)

end RelativeDate

end Roster
