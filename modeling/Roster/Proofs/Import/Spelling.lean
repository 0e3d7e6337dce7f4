import Roster.Proofs.Import.Ownership
import Roster.Proofs.Record.Tagged
/-!
# An import reads what its lines spell

A line carries a record as an object: its members and the tag, in any order, each with gaps around its key and its
value, and white space around the object (`Import.Carries`). No part of that contains a line feed, for a line feed in a
text is written as an escape. So a text whose lines carry records or are blank (`Import.Lists`) is cut into just these
lines. Each line that carries a record holds it (`Import.Carries.holds`), whatever the order of the members, and adds it
to those of its kind (`Import.Lists.readLines`). Altogether the text is read as the record set that its lines list
(`import_reads_what_lines_spell`).
-/

namespace Roster

open Text

/-! ### Members on a line -/

namespace Json

/-- The white space that JSON admits between its parts, as far as it stays on the line. -/
def Gap (s : List Char) : Prop := ∀ c ∈ s, c = ' ' ∨ c = '\t' ∨ c = '\r'

theorem gap_nil : Gap [] := List.forall_mem_nil _

theorem gap_space : Gap [' '] := List.forall_mem_singleton.2 (.inl rfl)

theorem Gap.spaces {s : List Char} (h : Gap s) : Spaces s := by
  intro c hc
  rcases h c hc with rfl | rfl | rfl <;> rfl

theorem Gap.newline_not_mem {s : List Char} (h : Gap s) : '\n' ∉ s := by
  intro hc
  have hnewline := h '\n' hc
  simp at hnewline

/-- The member is written with gaps around its key and its value, and is compact otherwise. -/
inductive WritesMember : List Char → String × Json → Prop
  | intro {before gap gap' after : List Char} (hbefore : Gap before) (hgap : Gap gap) (hgap' : Gap gap')
      (hafter : Gap after) (key : String) (v : Json) :
      WritesMember (before ++ textChars key ++ gap ++ ':' :: (gap' ++ compactChars v ++ after)) (key, v)

variable {text : List Char} {texts : List (List Char)} {m : String × Json} {ms : List (String × Json)}

theorem WritesMember.spells (h : WritesMember text m) : SpellsMember text (readingMember m) := by
  cases h with
  | intro hbefore hgap hgap' hafter key v =>
      exact .intro hbefore.spaces hgap.spaces hgap'.spaces hafter.spaces (spells_compactChars v)

theorem WritesMember.newline_not_mem (h : WritesMember text m) : '\n' ∉ text := by
  cases h with
  | intro hbefore hgap hgap' hafter key v =>
      simp [hbefore.newline_not_mem, hgap.newline_not_mem, hgap'.newline_not_mem, hafter.newline_not_mem,
        newline_not_mem_textChars, newline_not_mem_compactChars]

/-- The members as `compact` writes them. -/
theorem writes_compactMembers (ms : List (String × Json)) : List.Forall₂ WritesMember (compactMembers ms) ms := by
  induction ms with
  | nil => exact .nil
  | cons m ms ih =>
      refine .cons ?_ ih
      rw [compactMember_eq]
      exact .intro gap_nil gap_nil gap_nil gap_nil m.1 m.2

theorem spells_writtenMembers (h : List.Forall₂ WritesMember texts ms) :
    List.Forall₂ SpellsMember texts (readingMembers ms) := by
  induction h with
  | nil => exact .nil
  | cons hm _ ih => exact .cons hm.spells ih

theorem newline_not_mem_object (h : List.Forall₂ WritesMember texts ms) :
    '\n' ∉ '{' :: joined [','] texts ++ ['}'] := by
  have htexts : ∀ text ∈ texts, '\n' ∉ text := by
    induction h with
    | nil => exact List.forall_mem_nil _
    | cons hm _ ih => exact List.forall_mem_cons.2 ⟨hm.newline_not_mem, ih⟩
  simp [newline_not_mem_joined htexts]

end Json

/-! ### Lines -/

namespace RecordSet

/-- Puts a record in front of the others of its kind. -/
def cons (r : RecordSet) : TaggedRecord → RecordSet
  | .work w => { r with works := w :: r.works }
  | .change c => { r with changes := c :: r.changes }
  | .break b => { r with breaks := b :: r.breaks }

theorem ofTagged_cons (t : TaggedRecord) (ts : List TaggedRecord) : ofTagged (t :: ts) = (ofTagged ts).cons t := by
  cases t <;> rfl

theorem Checked.of_cons {r : RecordSet} {t : TaggedRecord} (h : (r.cons t).Checked) : ¬ t.IsStray ∧ r.Checked := by
  cases t with
  | work w => exact ⟨not_false, h⟩
  | change c => exact List.forall_mem_cons.1 h
  | «break» b => exact ⟨not_false, h⟩

end RecordSet

namespace Import

/-- White space that stays on the line. -/
def Margin (s : List Char) : Prop := Blank s ∧ '\n' ∉ s

theorem margin_nil : Margin [] := ⟨List.forall_mem_nil _, List.not_mem_nil⟩

/-- Nothing stands on the line but, between white space, the object of the record with its tag, the members in any
order. -/
inductive Carries : List Char → TaggedRecord → Prop
  | intro {before after : List Char} {texts : List (List Char)} {ms : List (String × Json)} {r : TaggedRecord}
      (hbefore : Margin before) (hafter : Margin after)
      (hperm : ms.Perm ((RecordTag.key, .text r.tag.name) :: r.members))
      (htexts : List.Forall₂ Json.WritesMember texts ms) :
      Carries (before ++ ('{' :: Json.joined [','] texts ++ ['}']) ++ after) r

/-- The lines are blank or carry the records, those of each kind in this order. -/
inductive Lists : List (List Char) → RecordSet → Prop
  | nil : Lists [] .empty
  | blank {line : List Char} {lines : List (List Char)} {r : RecordSet} (hline : Margin line) (h : Lists lines r) :
      Lists (line :: lines) r
  | record {line : List Char} {lines : List (List Char)} {t : TaggedRecord} {r : RecordSet} (hline : Carries line t)
      (h : Lists lines r) : Lists (line :: lines) (r.cons t)

variable {line : List Char} {lines : List (List Char)} {t : TaggedRecord} {r : RecordSet}

theorem trimmed_object (texts : List (List Char)) : Trimmed ('{' :: Json.joined [','] texts ++ ['}']) where
  head := by
    intro c hc
    cases hc
    rfl
  last := by
    intro c hc
    rw [List.getLast?_concat] at hc
    cases hc
    rfl

theorem Carries.holds (h : Carries line t) : Holds line t := by
  cases h with
  | @intro before after texts ms r hbefore hafter hperm htexts =>
      have hspells := Json.spells_object (Json.spells_writtenMembers htexts)
      refine ⟨before, _, after, rfl, hbefore.1, trimmed_object texts, hafter.1, ?_⟩
      rw [hspells.decodeText, ← TaggedRecord.decode_of_perm hperm]
      rfl

theorem Carries.newline_not_mem (h : Carries line t) : '\n' ∉ line := by
  cases h with
  | intro hbefore hafter _ htexts =>
      have hobject := Json.newline_not_mem_object htexts
      simp only [List.mem_append, not_or] at hobject ⊢
      exact ⟨⟨hbefore.2, hobject⟩, hafter.2⟩

/-- A record is carried by the compact text of its object. -/
theorem Carries.compact (t : TaggedRecord) : Carries t.toJson.compactChars t := by
  have hcarries := Carries.intro (r := t) margin_nil margin_nil (List.Perm.refl _) (Json.writes_compactMembers _)
  simpa [TaggedRecord.toJson, Json.compactChars] using hcarries

theorem Lists.newline_not_mem (h : Lists lines r) : ∀ line ∈ lines, '\n' ∉ line := by
  induction h with
  | nil => exact List.forall_mem_nil _
  | blank hline _ ih => exact List.forall_mem_cons.2 ⟨hline.2, ih⟩
  | record hline _ ih => exact List.forall_mem_cons.2 ⟨hline.newline_not_mem, ih⟩

theorem Lists.readLines (h : Lists lines r) (hchecked : r.Checked) (n : Nat) :
    ∃ ts, readLines n (lines.map some) = .ok ts ∧ RecordSet.ofTagged ts = r := by
  induction h generalizing n with
  | nil => exact ⟨[], rfl, rfl⟩
  | blank hline _ ih =>
      obtain ⟨ts, hread, hts⟩ := ih hchecked (n + 1)
      refine ⟨ts, ?_, hts⟩
      rw [readLines_cons (readLine_of_blank hline.1), hread]
      rfl
  | @record line lines t r hline _ ih =>
      obtain ⟨hstray, hchecked⟩ := RecordSet.Checked.of_cons hchecked
      obtain ⟨ts, hread, hts⟩ := ih hchecked (n + 1)
      have hfound : readLine n (some line) = .ok (some t) := by
        rw [readLine_of_holds hline.holds, check_of_not_isStray hstray]
        rfl
      refine ⟨t :: ts, ?_, ?_⟩
      · rw [readLines_cons hfound, hread]
        rfl
      · rw [RecordSet.ofTagged_cons, hts]

theorem Lists.readRecords_splitOn (h : Lists lines r) :
    readRecords (((List.intercalate ['\n'] lines).splitOn '\n').map some) = readRecords (lines.map some) := by
  cases lines with
  | nil => rfl
  | cons line lines => rw [List.splitOn_intercalate _ h.newline_not_mem (List.cons_ne_nil line lines)]

end Import

/-- A text of lines that are blank or carry records is read as these records, if no correction among them names a
client. -/
theorem import_reads_what_lines_spell {lines : List (List Char)} {r : RecordSet} (hlines : Import.Lists lines r)
    (hchecked : r.Checked) :
    Import.ofBytes (String.ofList (List.intercalate ['\n'] lines)).toUTF8.toList = .ok r := by
  obtain ⟨ts, hread, rfl⟩ := hlines.readLines hchecked 1
  rw [Import.ofBytes_toUTF8, Import.ofText_eq, String.toList_ofList, hlines.readRecords_splitOn, Import.readRecords, hread]
  rfl

def pierWork : Work :=
  ⟨⟨"pier", by decide⟩, ⟨"C27", by decide⟩, ⟨"S22", by decide⟩, ⟨2025, 7, 21, by decide⟩,
    .ofNanos (9 * 3600 * nanosPerSecond), .ofNanos (17 * 3600 * nanosPerSecond)⟩

/-- The last hour is replaced, by nobody who is named. -/
def pierChange : Change :=
  ⟨⟨"boat\n\"Ida\"", by decide⟩, ⟨"pier", by decide⟩, .endReplacement, .ofNanos (16 * 3600 * nanosPerSecond),
    .ofNanos (17 * 3600 * nanosPerSecond), none⟩

def pierBreak : Break :=
  ⟨⟨"bench", by decide⟩, ⟨"C27", by decide⟩, ⟨2025, 7, 21, by decide⟩, .ofNanos (12 * 3600 * nanosPerSecond),
    .ofNanos (13 * 3600 * nanosPerSecond)⟩

def pierRecords : RecordSet := ⟨[pierWork], [pierChange], [pierBreak]⟩

/-- A member with a space before its key and one before its value. -/
def spacedMember (m : String × Json) : List Char :=
  [' '] ++ Json.textChars m.1 ++ [] ++ ':' :: ([' '] ++ m.2.compactChars ++ [])

theorem writes_spacedMembers (ms : List (String × Json)) :
    List.Forall₂ Json.WritesMember (ms.map spacedMember) ms := by
  induction ms with
  | nil => exact .nil
  | cons m ms ih => exact .cons (.intro Json.gap_space Json.gap_nil Json.gap_space Json.gap_nil m.1 m.2) ih

/-- The change from its last member to its first, with the tag behind them. -/
def pierMembers : List (String × Json) := ((RecordTag.key, .text RecordTag.change.name) :: pierChange.members).reverse

/-- The change before the work, with a carriage return behind it, and lines without records. -/
def pierLines : List (List Char) :=
  [(TaggedRecord.break pierBreak).toJson.compactChars, ['\t', '\u00a0'],
    [] ++ ('{' :: Json.joined [','] (pierMembers.map spacedMember) ++ ['}']) ++ ['\r'],
    (TaggedRecord.work pierWork).toJson.compactChars, []]

theorem import_reads_pierLines :
    Import.Lists pierLines pierRecords ∧ pierRecords.Checked ∧
      Import.ofBytes (String.ofList (List.intercalate ['\n'] pierLines)).toUTF8.toList = .ok pierRecords := by
  have hreturn : Import.Margin ['\r'] := by simp [Import.Margin, Blank, isBlank]
  have htab : Import.Margin ['\t', '\u00a0'] := by simp [Import.Margin, Blank, isBlank]
  have hchange : Import.Carries (pierLines.get ⟨2, by decide⟩) (.change pierChange) :=
    .intro Import.margin_nil hreturn (List.reverse_perm _) (writes_spacedMembers pierMembers)
  have hlists : Import.Lists pierLines pierRecords :=
    .record (.compact (.break pierBreak)) <| .blank htab <| .record hchange <|
      .record (.compact (.work pierWork)) <| .blank Import.margin_nil .nil
  have hchecked : pierRecords.Checked := by
    simp [RecordSet.Checked, pierRecords, pierChange, TaggedRecord.IsStray]
  exact ⟨hlists, hchecked, import_reads_what_lines_spell hlists hchecked⟩

end Roster
