import Roster.Proofs.Import.FirstFault
import Roster.Proofs.Store.Query
/-!
# A client's query selects the works that the client has a part in

The store selects works for a client by what their changes name. The rects of a work go to whom `Change.owner` gives,
and for a correction that is the client of the work whatever it names. The two agree because no import lets a
correction name a client. `RecordSet.Checked` says so of records; what is read from a line has it
(`Import.not_isStray_of_readLine`), every import keeps it (`Store.Imported.exists_checked`), and with it a client owns
rects of exactly the works that concern the client (`RecordSet.Checked.concerns_iff`).
-/

namespace Roster

open Text

/-- Filled from nothing, by imports that went through. -/
inductive Store.Imported : Store → Prop
  | empty : Imported .empty
  | next {s after : Store} {bytes : List UInt8} {added : Counts} {report : String} (hs : Imported s)
      (hrun : Import.run s (Import.ofBytes bytes) = (after, .ok (added, report))) : Imported after

/-- No correction names a client. -/
def RecordSet.Checked (r : RecordSet) : Prop := ∀ c ∈ r.changes, ¬ (TaggedRecord.change c).IsStray

/-! ### What imports let through -/

namespace Import

variable {n : Nat}

theorem not_isStray_of_readLine {line : Option (List Char)} {found : Option TaggedRecord}
    (hread : readLine n line = .ok found) : ∀ r ∈ found, ¬ r.IsStray := by
  cases line with
  | none => cases hread
  | some line =>
      rcases line_cases line with hblank | ⟨r, hholds, hr⟩ | hfaulty
      · rw [readLine_of_blank hblank] at hread
        cases hread
        intro r hr
        cases hr
      · rw [readLine_of_holds hholds, check_of_not_isStray hr] at hread
        cases hread
        rintro _ ⟨⟩
        exact hr
      · obtain ⟨e, herror, -⟩ := readLine_of_faulty (n := n) hfaulty
        rw [herror] at hread
        cases hread

theorem not_isStray_of_readLines {lines : List (Option (List Char))} {records : List TaggedRecord}
    (hread : readLines n lines = .ok records) : ∀ r ∈ records, ¬ r.IsStray := by
  induction lines generalizing n records with
  | nil =>
      cases hread
      intro r hr
      cases hr
  | cons line lines ih =>
      cases hline : readLine n line with
      | error e =>
          rw [readLines, hline] at hread
          cases hread
      | ok found =>
          cases hrest : readLines (n + 1) lines with
          | error e =>
              rw [readLines, hline, bind_of_eq_ok rfl, hrest] at hread
              cases hread
          | ok more =>
              rw [readLines, bind_of_eq_ok hline, bind_of_eq_ok hrest] at hread
              cases hread
              intro r hr
              rcases List.mem_append.1 hr with hr | hr
              · exact not_isStray_of_readLine hline r (Option.mem_toList.1 hr)
              · exact ih hrest r hr

theorem checked_of_ofBytes_eq_ok {bytes : List UInt8} {r : RecordSet} (hread : ofBytes bytes = .ok r) : r.Checked := by
  rw [ofBytes, readRecords] at hread
  cases hlines : readLines 1 (linesOfBytes bytes) with
  | error e =>
      rw [hlines] at hread
      cases hread
  | ok records =>
      rw [hlines] at hread
      cases hread
      intro c hc
      apply not_isStray_of_readLines hlines
      obtain ⟨tagged, htagged, heq⟩ := List.mem_filterMap.1 hc
      cases tagged <;> cases heq
      exact htagged

end Import

theorem RecordSet.Checked.merge {r s : RecordSet} (hr : r.Checked) (hs : s.Checked) : (r.merge s).Checked :=
  fun c hc => (mem_of_mem_addRows _ hc).elim (hr c) (hs c)

theorem Store.Imported.exists_checked {s : Store} (hs : s.Imported) :
    ∃ stored, s = holding stored ∧ stored.Distinct ∧ stored.Checked := by
  induction hs with
  | empty => exact ⟨.empty, rfl, RecordSet.distinct_empty, nofun⟩
  | next _ hrun ih =>
      obtain ⟨stored, rfl, hdistinct, hchecked⟩ := ih
      rename_i bytes added report _
      cases hread : Import.ofBytes bytes with
      | error e =>
          rw [hread, Import.run] at hrun
          cases congrArg Prod.snd hrun
      | ok r =>
          rw [hread, Import.run, insert_holding] at hrun
          cases hrun
          exact ⟨_, rfl, hdistinct.merge r, hchecked.merge (Import.checked_of_ofBytes_eq_ok hread)⟩

theorem Store.holding_inj {r s : RecordSet} : holding r = holding s ↔ r = s := by
  refine ⟨fun h => ?_, congrArg holding⟩
  have hworks := congrArg (Option.map fun rows => rows.mapM WorkRow.toWork) (congrArg Store.works h)
  have hchanges := congrArg (Option.map fun rows => rows.mapM ChangeRow.toChange) (congrArg Store.changes h)
  have hbreaks := congrArg (Option.map fun rows => rows.mapM BreakRow.toBreak) (congrArg Store.breaks h)
  simp only [holding, Option.map_some, Text.mapM_map_of_eq_ok WorkRow.toWork_ofWork,
    Text.mapM_map_of_eq_ok ChangeRow.toChange_ofChange, Text.mapM_map_of_eq_ok BreakRow.toBreak_ofBreak,
    Option.some.injEq, Except.ok.injEq] at hworks hchanges hbreaks
  obtain ⟨works, changes, breaks⟩ := r
  subst hworks hchanges hbreaks
  rfl

/-! ### Owners -/

theorem Change.owner_of_named {c : Change} (hc : ¬ (TaggedRecord.change c).IsStray) {client : ClientId}
    (hnamed : c.replacement = some client) (w : Work) : c.owner w = client := by
  have hsome : c.replacement ≠ none := by simp [hnamed]
  have hkind : c.kind.isReplacement = true := by
    cases hkind : c.kind with
    | startCorrection => exact absurd ⟨.inl hkind, hsome⟩ hc
    | endCorrection => exact absurd ⟨.inr hkind, hsome⟩ hc
    | startReplacement => rfl
    | endReplacement => rfl
  rw [owner, if_pos hkind, hnamed, Option.getD_some]

theorem Origin.exists_mem_rects (o : Origin) (date : Date) (start finish : TimeOfDay) :
    ∃ t ∈ o.rects date start finish, t.kind = o.kind ∧ t.source = o.source ∧ t.client = o.client := by
  have hne : o.rects date start finish ≠ [] := by
    unfold rects splitAtMidnight
    split <;> simp
  obtain ⟨t, ht⟩ := List.exists_mem_of_ne_nil _ hne
  obtain ⟨hsource, hkind⟩ := source_of_mem_rects ht
  exact ⟨t, ht, hkind, hsource, (mem_rects ht).2⟩

namespace RecordSet.Checked

variable {r : RecordSet} {w : Work}

/-- A client whom a work concerns owns a rect of it, and of no other work. -/
theorem concerns_iff (hchecked : r.Checked) (hdistinct : (r.works.map Work.id).Nodup) (hw : w ∈ r.works)
    {client : ClientId} :
    w.Concerns client r.changes ↔ ∃ t ∈ r.rects, t.kind ≠ .break ∧ t.source = w.id.toSource ∧ t.client = client := by
  have hsub : w.rects r.changes ⊆ r.rects := rects_of_mem_works hw
  constructor
  · rintro (rfl | ⟨c, hc, hwork, hnamed⟩)
    · obtain ⟨t, ht, hkind, hsource, hclient⟩ := Origin.exists_mem_rects w.origin w.date
        ((Frame.ofWork w).timeAt (w.remaining (w.ownChanges r.changes)).1)
        ((Frame.ofWork w).timeAt (w.remaining (w.ownChanges r.changes)).2)
      refine ⟨t, hsub (Work.mem_rects_iff.2 (.inl ht)), ?_, hsource, hclient⟩
      rw [hkind]
      exact RectKind.noConfusion
    · obtain ⟨t, ht, hkind, hsource, hclient⟩ := Origin.exists_mem_rects
        ⟨w.id.toSource, c.rectKind, c.owner w, some c.id⟩ w.date c.start c.finish
      have hown : t ∈ w.rects r.changes := Work.mem_rects_iff.2 (.inr ⟨c, hc, hwork, ht⟩)
      refine ⟨t, hsub hown, ?_, hsource, ?_⟩
      · rw [hkind]
        exact c.rectKind_ne_break
      · rw [hclient]
        exact Change.owner_of_named (hchecked c hc) hnamed w
  · rintro ⟨t, ht, hkind, hsource, rfl⟩
    have hown := mem_work_rects hdistinct hw ht hsource hkind
    exact (Work.mem_rects hown).2.imp_left Eq.symm

end RecordSet.Checked

/-- A client's query of a store that was filled by imports returns, of the works dated in the window or the day before,
those of which the client owns a rect that is no break. -/
theorem client_query_selects_owned {s : Store} (hs : s.Imported) :
    ∃ stored, s = .holding stored ∧
      (stored.FourDigitYears → ∀ (w : Window) (client : ClientId), w.last.FourDigitYear → w.client = some client →
        ∃ loaded, s.load w = .ok loaded ∧ (loaded.works.map Work.id).Nodup ∧
          ∀ x, x ∈ loaded.works ↔ x ∈ stored.works ∧ w.loadFrom ≤ x.date ∧ x.date ≤ w.last ∧
            ∃ t ∈ stored.rects, t.kind ≠ .break ∧ t.source = x.id.toSource ∧ t.client = client) := by
  obtain ⟨stored, rfl, hdistinct, hchecked⟩ := hs.exists_checked
  refine ⟨stored, rfl, fun hyears w client hlast hclient => ?_⟩
  have hsnapshot := RecordSet.window_snapshot hdistinct hyears hlast
  refine ⟨_, Store.load_holding hdistinct w, hsnapshot.distinct.works, fun x => ?_⟩
  rw [hsnapshot.mem_works, hclient]
  refine and_congr_right fun hx => ?_
  rw [← hchecked.concerns_iff hdistinct.works hx]
  simp [Window.Reaches, and_assoc]

/-- A night's work, of which another client takes the end, and a work of a third client. -/
def kioskBook : String :=
  "[\"work\",\"kiosk\",\"C20\",\"S19\",\"2025-12-20\",\"22:00\",\"06:00\"]\n" ++
    "[\"change\",\"cover\",\"kiosk\",\"end_replacement\",\"02:00\",\"06:00\",\"C21\"]\n" ++
    "[\"work\",\"gate\",\"C22\",\"S19\",\"2025-12-20\",\"22:00\",\"06:00\"]"

def kioskRecords : RecordSet :=
  ⟨[⟨⟨"kiosk", by decide⟩, ⟨"C20", by decide⟩, ⟨"S19", by decide⟩, ⟨2025, 12, 20, by decide⟩,
      .ofNanos (22 * 3600 * nanosPerSecond), .ofNanos (6 * 3600 * nanosPerSecond)⟩,
    ⟨⟨"gate", by decide⟩, ⟨"C22", by decide⟩, ⟨"S19", by decide⟩, ⟨2025, 12, 20, by decide⟩,
      .ofNanos (22 * 3600 * nanosPerSecond), .ofNanos (6 * 3600 * nanosPerSecond)⟩],
    [⟨⟨"cover", by decide⟩, ⟨"kiosk", by decide⟩, .endReplacement, .ofNanos (2 * 3600 * nanosPerSecond),
      .ofNanos (6 * 3600 * nanosPerSecond), some ⟨"C21", by decide⟩⟩], []⟩

/-- The day after the night, for the client who takes over. -/
def kioskMorning : Window :=
  ⟨⟨2025, 12, 21, by decide⟩, ⟨2025, 12, 21, by decide⟩, some ⟨"C21", by decide⟩, by decide⟩

theorem kioskMorning_selects_owned :
    (Store.holding kioskRecords).Imported ∧ kioskRecords.FourDigitYears ∧ kioskMorning.last.FourDigitYear ∧
      ∃ loaded, (Store.holding kioskRecords).load kioskMorning = .ok loaded ∧
        ∀ x, x ∈ loaded.works ↔ x ∈ kioskRecords.works ∧ kioskMorning.loadFrom ≤ x.date ∧ x.date ≤ kioskMorning.last ∧
          ∃ t ∈ kioskRecords.rects, t.kind ≠ .break ∧ t.source = x.id.toSource ∧ t.client = ⟨"C21", by decide⟩ := by
  have hread : Import.ofText kioskBook = .ok kioskRecords := by decide +kernel
  have hrun : Import.run .empty (Import.ofBytes kioskBook.toUTF8.toList) =
      (.holding kioskRecords, .ok (⟨2, 1, 0⟩, Import.summary kioskRecords ⟨2, 1, 0⟩)) := by
    rw [Import.ofBytes_toUTF8, hread]
    rfl
  have himported : (Store.holding kioskRecords).Imported := .next .empty hrun
  have hyears : kioskRecords.FourDigitYears := ⟨by decide, by decide⟩
  obtain ⟨stored, hstored, hloads⟩ := client_query_selects_owned himported
  obtain rfl := Store.holding_inj.1 hstored
  obtain ⟨loaded, hload, -, hworks⟩ := hloads hyears kioskMorning _ (by decide) rfl
  exact ⟨himported, hyears, by decide, loaded, hload, hworks⟩

end Roster
