import Roster.Import
import Roster.Proofs.Store.Merging
import Roster.Proofs.Text.Lines
/-!
# The first faulty line of an import

A line of an import is blank, or it holds a record that may stand there, or it is faulty (`line_cases`), and in each
case `readLine` is determined. Read one after the other the lines therefore yield the records on all that are not
blank, or the fault of the first that is faulty, by its number (`readLines_cases`). Records that were read go into a
store with all its tables as what is new of them; after a fault the store is what it was
(`import_merges_or_blames_first_fault`).
-/

namespace Roster

open Text

/-- A correction names a client, as only a replacement may. -/
def TaggedRecord.IsStray : TaggedRecord → Prop
  | .change c => (c.kind = .startCorrection ∨ c.kind = .endCorrection) ∧ c.replacement ≠ none
  | _ => False

namespace RecordSet

theorem size_ofTagged (records : List TaggedRecord) : (ofTagged records).size = records.length := by
  induction records with
  | nil => rfl
  | cons r records ih =>
      simp only [ofTagged, size] at ih
      cases r <;> simp only [ofTagged, size, List.filterMap_cons, List.length_cons] <;> omega

end RecordSet

namespace Import

/-! ### What stands on a line -/

/-- Nothing but the record and white space around it stands on the line. -/
def Holds (line : List Char) (r : TaggedRecord) : Prop :=
  ∃ before text after, line = before ++ text ++ after ∧ Blank before ∧ Trimmed text ∧ Blank after ∧
    Json.decodeText TaggedRecord.decode text = .ok r

/-- Neither blank nor a record. -/
def Invalid (line : List Char) : Prop := ¬ Blank line ∧ ∀ r, ¬ Holds line r

def Stray (line : List Char) : Prop := ∃ r, Holds line r ∧ r.IsStray

def Faulty (line : List Char) : Prop := Invalid line ∨ Stray line

/-- The error says of the line with the number what is wrong with it. -/
def Names (n : Nat) (line : List Char) (e : ImportError) : Prop :=
  Invalid line ∧ e.message = s!"invalid record on line {n}" ∨
    Stray line ∧ e.message = s!"invalid change on line {n}"

variable {line : List Char} {r : TaggedRecord}

theorem holds_iff : Holds line r ↔ Json.decodeText TaggedRecord.decode (trim line) = .ok r := by
  constructor
  · intro h
    obtain ⟨before, text, after, rfl, hbefore, htext, hafter, hdecode⟩ := h
    rwa [trim_append hbefore htext hafter]
  · intro hdecode
    obtain ⟨before, after, heq, hbefore, htext, hafter⟩ := exists_trim line
    exact ⟨before, trim line, after, heq, hbefore, htext, hafter, hdecode⟩

theorem Holds.unique {r' : TaggedRecord} (h : Holds line r) (h' : Holds line r') : r = r' :=
  Except.ok.inj ((holds_iff.1 h).symm.trans (holds_iff.1 h'))

theorem Holds.not_blank (h : Holds line r) : ¬ Blank line := by
  intro hblank
  have hdecode := holds_iff.1 h
  rw [trim_eq_nil_iff.2 hblank] at hdecode
  cases hdecode

theorem not_faulty_of_blank (h : Blank line) : ¬ Faulty line
  | .inl hinvalid => hinvalid.1 h
  | .inr ⟨_, hholds, _⟩ => hholds.not_blank h

theorem not_faulty_of_holds (h : Holds line r) (hr : ¬ r.IsStray) : ¬ Faulty line
  | .inl hinvalid => hinvalid.2 r h
  | .inr ⟨_, hholds, hstray⟩ => hr (h.unique hholds ▸ hstray)

theorem line_cases (line : List Char) : Blank line ∨ (∃ r, Holds line r ∧ ¬ r.IsStray) ∨ Faulty line := by
  by_cases hblank : Blank line
  · exact .inl hblank
  by_cases hholds : ∃ r, Holds line r
  · obtain ⟨r, hr⟩ := hholds
    by_cases hstray : r.IsStray
    · exact .inr (.inr (.inr ⟨r, hr, hstray⟩))
    · exact .inr (.inl ⟨r, hr, hstray⟩)
  · exact .inr (.inr (.inl ⟨hblank, not_exists.1 hholds⟩))

/-! ### Reading a line -/

variable {n : Nat}

theorem check_of_not_isStray (hr : ¬ r.IsStray) : check n r = .ok r := by
  cases r with
  | work w => rfl
  | «break» b => rfl
  | change c =>
      apply if_neg
      rintro ⟨hkind, hnamed⟩
      apply hr
      refine ⟨?_, Option.isSome_iff_ne_none.1 hnamed⟩
      cases hc : c.kind <;> simp [hc, ChangeKind.isReplacement] at hkind ⊢

theorem check_of_isStray (hr : r.IsStray) :
    ∃ e, check n r = .error e ∧ e.message = s!"invalid change on line {n}" := by
  cases r with
  | work w => cases hr
  | «break» b => cases hr
  | change c =>
      obtain ⟨hkind, hnamed⟩ := hr
      refine ⟨.strayClient n c.kind c.id, if_pos ⟨?_, Option.isSome_iff_ne_none.2 hnamed⟩, rfl⟩
      rcases hkind with hkind | hkind <;> rw [hkind] <;> rfl

theorem readLine_of_blank (h : Blank line) : readLine n (some line) = .ok none := by
  rw [readLine, trim_eq_nil_iff.2 h]

theorem readLine_of_holds (h : Holds line r) : readLine n (some line) = (check n r).map some := by
  obtain ⟨c, s, htrim⟩ := List.exists_cons_of_ne_nil (mt trim_eq_nil_iff.1 h.not_blank)
  have hdecode := holds_iff.1 h
  rw [htrim] at hdecode
  simp only [readLine, htrim, hdecode]

theorem readLine_of_invalid (h : Invalid line) :
    ∃ e, readLine n (some line) = .error e ∧ e.message = s!"invalid record on line {n}" := by
  obtain ⟨hblank, hholds⟩ := h
  obtain ⟨c, s, htrim⟩ := List.exists_cons_of_ne_nil (mt trim_eq_nil_iff.1 hblank)
  cases hdecode : Json.decodeText TaggedRecord.decode (c :: s) with
  | ok r => exact absurd (holds_iff.2 (htrim ▸ hdecode)) (hholds r)
  | error cause => exact ⟨.invalidRecord n cause, by simp only [readLine, htrim, hdecode], rfl⟩

theorem readLine_of_faulty (h : Faulty line) : ∃ e, readLine n (some line) = .error e ∧ Names n line e := by
  rcases h with hinvalid | ⟨r, hholds, hstray⟩
  · obtain ⟨e, hread, hmessage⟩ := readLine_of_invalid (n := n) hinvalid
    exact ⟨e, hread, .inl ⟨hinvalid, hmessage⟩⟩
  · obtain ⟨e, hcheck, hmessage⟩ := check_of_isStray (n := n) hstray
    refine ⟨e, ?_, .inr ⟨⟨r, hholds, hstray⟩, hmessage⟩⟩
    rw [readLine_of_holds hholds, hcheck]
    rfl

/-! ### Reading lines -/

/-- The lines that are not blank. -/
def written (lines : List (List Char)) : List (List Char) := lines.filter fun line => ¬ Blank line

/-- No line is faulty, and those that are not blank hold the records, in this order. -/
structure ReadAs (lines : List (List Char)) (records : List TaggedRecord) : Prop where
  sound : ∀ line ∈ lines, ¬ Faulty line
  records : List.Forall₂ Holds (written lines) records

/-- Of lines that are numbered from `n`, the error names the first that is faulty. -/
def Blames (n : Nat) (lines : List (List Char)) (e : ImportError) : Prop :=
  ∃ before line after, lines = before ++ line :: after ∧ (∀ l ∈ before, ¬ Faulty l) ∧ Names (n + before.length) line e

variable {lines : List (List Char)} {records : List TaggedRecord} {e : ImportError}

theorem ReadAs.cons_blank (hline : Blank line) (h : ReadAs lines records) : ReadAs (line :: lines) records where
  sound := List.forall_mem_cons.2 ⟨not_faulty_of_blank hline, h.sound⟩
  records := by
    rw [written, List.filter_cons_of_neg (by simpa using hline)]
    exact h.records

theorem ReadAs.cons (hline : Holds line r) (hr : ¬ r.IsStray) (h : ReadAs lines records) :
    ReadAs (line :: lines) (r :: records) where
  sound := List.forall_mem_cons.2 ⟨not_faulty_of_holds hline hr, h.sound⟩
  records := by
    rw [written, List.filter_cons_of_pos (by simpa using hline.not_blank)]
    exact .cons hline h.records

theorem Blames.cons (hline : ¬ Faulty line) (h : Blames (n + 1) lines e) : Blames n (line :: lines) e := by
  obtain ⟨before, faulty, after, rfl, hbefore, hnames⟩ := h
  refine ⟨line :: before, faulty, after, rfl, List.forall_mem_cons.2 ⟨hline, hbefore⟩, ?_⟩
  rwa [List.length_cons, Nat.add_comm before.length, ← Nat.add_assoc]

/-- A line that is not faulty leaves it to the following lines what comes of all of them. -/
theorem readLines_cons {found : Option TaggedRecord} (hline : readLine n (some line) = .ok found) :
    readLines n ((line :: lines).map some) = (readLines (n + 1) (lines.map some)).map (found.toList ++ ·) := by
  rw [List.map_cons, readLines, hline]
  rfl

theorem readLines_cases (n : Nat) (lines : List (List Char)) :
    (∃ records, readLines n (lines.map some) = .ok records ∧ ReadAs lines records) ∨
      ∃ e, readLines n (lines.map some) = .error e ∧ Blames n lines e := by
  induction lines generalizing n with
  | nil => exact .inl ⟨[], rfl, nofun, .nil⟩
  | cons line lines ih =>
      rcases line_cases line with hblank | ⟨r, hholds, hr⟩ | hfaulty
      · rw [readLines_cons (readLine_of_blank hblank)]
        rcases ih (n + 1) with ⟨records, hread, hrecords⟩ | ⟨e, hread, he⟩
        · exact .inl ⟨records, by rw [hread]; rfl, hrecords.cons_blank hblank⟩
        · exact .inr ⟨e, by rw [hread]; rfl, he.cons (not_faulty_of_blank hblank)⟩
      · rw [readLines_cons (by rw [readLine_of_holds hholds, check_of_not_isStray hr]; rfl)]
        rcases ih (n + 1) with ⟨records, hread, hrecords⟩ | ⟨e, hread, he⟩
        · exact .inl ⟨r :: records, by rw [hread]; rfl, hrecords.cons hholds hr⟩
        · exact .inr ⟨e, by rw [hread]; rfl, he.cons (not_faulty_of_holds hholds hr)⟩
      · -- Whatever stands on the lines after it, the fault is the answer.
        obtain ⟨e, hread, hnames⟩ := readLine_of_faulty (n := n) hfaulty
        refine .inr ⟨e, ?_, [], line, lines, rfl, nofun, hnames⟩
        rw [List.map_cons, readLines, hread]
        rfl

/-! ### Texts -/

/-- Empty lines at the end change nothing. -/
theorem readLines_append_nil {rest : List (List Char)} (hrest : ∀ line ∈ rest, line = []) (n : Nat)
    (lines : List (List Char)) : readLines n ((lines ++ rest).map some) = readLines n (lines.map some) := by
  induction lines generalizing n with
  | nil =>
      rw [List.nil_append]
      induction rest generalizing n with
      | nil => rfl
      | cons line rest ih =>
          obtain ⟨rfl, htail⟩ := List.forall_mem_cons.1 hrest
          rw [readLines_cons (readLine_of_blank (List.forall_mem_nil _)), ih htail]
          rfl
  | cons line lines ih => rw [List.cons_append, List.map_cons, List.map_cons, readLines, readLines, ih]

theorem ofText_eq (text : String) : ofText text = readRecords ((text.toList.splitOn '\n').map some) := by
  obtain ⟨rest, hrest, hsplit⟩ := splitOnP_eq_splitLines (· == '\n') text.toList
  rw [ofText, readRecords, readRecords, List.splitOn, hsplit, readLines_append_nil hrest, linesOfChars]

theorem ofBytes_toUTF8 (text : String) : ofBytes text.toUTF8.toList = ofText text := by
  rw [ofBytes, linesOfBytes_toUTF8, ofText]

theorem ofBytes_cases (text : String) :
    (∃ records, ofBytes text.toUTF8.toList = .ok (.ofTagged records) ∧ ReadAs (text.toList.splitOn '\n') records) ∨
      ∃ e, ofBytes text.toUTF8.toList = .error e ∧ Blames 1 (text.toList.splitOn '\n') e := by
  rw [ofBytes_toUTF8, ofText_eq, readRecords]
  rcases readLines_cases 1 (text.toList.splitOn '\n') with ⟨records, hread, hrecords⟩ | ⟨e, hread, he⟩
  · exact .inl ⟨records, by rw [hread]; rfl, hrecords⟩
  · exact .inr ⟨e, by rw [hread]; rfl, he⟩

/-- An import of the lines goes through: the records on them are merged into the store in the order of their lines, and
the report tells how many were new of how many, and of each kind. -/
structure Succeeds (s : Store) (lines : List (List Char)) (after : Store) (added : Counts) (report : String) :
    Prop where
  merges : ∃ records, ReadAs lines records ∧ after = s.withNew (.ofTagged records)
  counts : ∃ before, s.counts = .ok before ∧ after.counts = .ok (before + added)
  report : report =
    s!"Imported {added.works + added.changes + added.breaks} new of {(written lines).length} records " ++
      s!"({added.works} works, {added.changes} changes, {added.breaks} breaks)\n"

theorem ReadAs.succeeds {s : Store} (h : ReadAs lines records) (hs : s.Complete) :
    Succeeds s lines (s.withNew (.ofTagged records)) (s.newCounts (.ofTagged records))
      (summary (.ofTagged records) (s.newCounts (.ofTagged records))) where
  merges := ⟨records, h, rfl⟩
  counts := s.counts_withNew hs _
  report := by
    rw [summary, RecordSet.size_ofTagged, ← h.records.length_eq]
    rfl

end Import

/-- The bytes of a text are imported as a whole, or its first faulty line is blamed and the store is left as it is. -/
theorem import_merges_or_blames_first_fault {s : Store} (hs : s.Complete) (text : String) :
    (∃ after added report, Import.run s (Import.ofBytes text.toUTF8.toList) = (after, .ok (added, report)) ∧
      Import.Succeeds s (text.toList.splitOn '\n') after added report) ∨
    ∃ e, Import.run s (Import.ofBytes text.toUTF8.toList) = (s, .error e) ∧
      Import.Blames 1 (text.toList.splitOn '\n') e := by
  rcases Import.ofBytes_cases text with ⟨records, hread, hrecords⟩ | ⟨e, hread, he⟩
  · refine .inl ⟨_, _, _, ?_, hrecords.succeeds hs⟩
    rw [hread, Import.run, Store.insert_of_complete hs]
  · refine .inr ⟨e, ?_, he⟩
    rw [hread, Import.run]

/-- A break, a correction that names a client, and no record at all, behind an empty line. -/
def porterLog : String :=
  "\n[\"break\",\"tea\",\"C16\",\"2025-12-01\",\"10:00\",\"10:15\"]\n" ++
    "[\"change\",\"swap\",\"porter\",\"end_correction\",\"13:00\",\"14:00\",\"C17\"]\nporter"

theorem porterLog_blames_third_line :
    Store.empty.Complete ∧
      ∃ e, Import.run .empty (Import.ofBytes porterLog.toUTF8.toList) = (.empty, .error e) ∧
        Import.Blames 1 (porterLog.toList.splitOn '\n') e ∧ e.message = "invalid change on line 3" := by
  have hcomplete : Store.empty.Complete := Store.complete_mk [] [] []
  have hread : Import.ofText porterLog = .error (.strayClient 3 .endCorrection ⟨"swap", by decide⟩) := by
    decide +kernel
  refine ⟨hcomplete, ?_⟩
  rcases import_merges_or_blames_first_fault hcomplete porterLog with ⟨after, added, report, hrun, -⟩ | ⟨e, hrun, he⟩
  · rw [Import.ofBytes_toUTF8, hread] at hrun
    cases congrArg Prod.snd hrun
  · refine ⟨e, hrun, he, ?_⟩
    rw [Import.ofBytes_toUTF8, hread] at hrun
    cases hrun
    rfl

end Roster
