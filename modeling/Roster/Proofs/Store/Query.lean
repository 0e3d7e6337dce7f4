import Roster.Proofs.Store.Coverage
/-!
# What a window query returns

The store compares texts, but what it selects and how it sorts can be said of dates and times. `Window.Snapshot` says
it, and a store that was filled with dates of four-digit years answers accordingly (`load_returns_snapshot`): the
texts of such dates and of all times are ordered as they are, and works and changes are selected by one condition, so
no change is returned without its work and no returned work lacks one of its changes.
-/

namespace Roster

/-- Where a record stands among the others of its kind. -/
structure Slot where
  date : Date
  start : TimeOfDay
  id : String

namespace Slot

instance : LT Slot :=
  ⟨fun a b => a.date < b.date ∨ a.date = b.date ∧ (a.start < b.start ∨ a.start = b.start ∧ a.id < b.id)⟩

def key (s : Slot) : List String := [s.date.toText, s.start.toText, s.id]

theorem key_append_lt_iff {a b : Slot} (ha : a.date.FourDigitYear) (hb : b.date.FourDigitYear) {s t : List String} :
    a.key ++ s < b.key ++ t ↔ a < b ∨ a = b ∧ s < t := by
  obtain ⟨date, start, id⟩ := a
  obtain ⟨date', start', id'⟩ := b
  show date.toText :: start.toText :: id :: s < date'.toText :: start'.toText :: id' :: t ↔ _
  rw [List.cons_lt_cons_iff, List.cons_lt_cons_iff, List.cons_lt_cons_iff, ha.toText_lt_iff hb, Date.toText_inj,
    TimeOfDay.toText_lt_iff, TimeOfDay.toText_inj, Slot.mk.injEq]
  show _ ↔ (date < date' ∨ date = date' ∧ (start < start' ∨ start = start' ∧ id < id')) ∨ _
  tauto

theorem key_lt_iff {a b : Slot} (ha : a.date.FourDigitYear) (hb : b.date.FourDigitYear) : a.key < b.key ↔ a < b := by
  simpa using key_append_lt_iff ha hb (s := []) (t := [])

theorem sortByKey_increasing {α : Type} (slot : α → Slot) {rows : List α}
    (hfour : ∀ x ∈ rows, (slot x).date.FourDigitYear) (hdistinct : (rows.map fun x => (slot x).key).Nodup) :
    (sortByKey (fun x => (slot x).key) rows).Pairwise fun x y => slot x < slot y := by
  refine List.Pairwise.imp_of_mem ?_ (sortByKey_strict _ hdistinct)
  intro x y hx hy hkey
  exact (key_lt_iff (hfour x ((mem_sortByKey _).1 hx)) (hfour y ((mem_sortByKey _).1 hy))).1 hkey

end Slot

def Work.slot (w : Work) : Slot := ⟨w.date, w.start, w.id.text⟩

def Break.slot (b : Break) : Slot := ⟨b.date, b.start, b.id.text⟩

/-- The work is the client's, or some change that names the client belongs to it. -/
def Work.Concerns (w : Work) (client : ClientId) (changes : List Change) : Prop :=
  w.client = client ∨ ∃ c ∈ changes, c.work = w.id ∧ c.replacement = some client

/-- The date is one from which rects reach into the window. -/
def Window.Reaches (w : Window) (date : Date) : Prop := w.loadFrom ≤ date ∧ date ≤ w.last

instance (w : Window) (date : Date) : Decidable (w.Reaches date) := by
  unfold Window.Reaches; infer_instance

/-- The second records are what a query of the window has to return of the first. -/
structure Window.Snapshot (w : Window) (stored loaded : RecordSet) : Prop where
  distinct : loaded.Distinct
  mem_works : ∀ x, x ∈ loaded.works ↔
    x ∈ stored.works ∧ w.Reaches x.date ∧ ∀ client ∈ w.client, x.Concerns client stored.changes
  mem_changes : ∀ c, c ∈ loaded.changes ↔ c ∈ stored.changes ∧ ∃ x ∈ loaded.works, c.work = x.id
  mem_breaks : ∀ b, b ∈ loaded.breaks ↔
    b ∈ stored.breaks ∧ w.Reaches b.date ∧ ∀ client ∈ w.client, b.client = client
  works_increasing : loaded.works.Pairwise fun x y => x.slot < y.slot
  breaks_increasing : loaded.breaks.Pairwise fun a b => a.slot < b.slot
  /-- The works in their order, and among the changes of one work their identifiers. -/
  changes_increasing : loaded.changes.Pairwise fun c d => ∀ x ∈ loaded.works, ∀ y ∈ loaded.works,
    c.work = x.id → d.work = y.id → x.slot < y.slot ∨ x = y ∧ c.id < d.id

/-! ### Selection -/

namespace Window

variable {w : Window}

theorem loadFrom_le_first (w : Window) : w.loadFrom ≤ w.first := loadFrom_le (.inl rfl) (Date.le_refl _)

theorem dated_iff (hlast : w.last.FourDigitYear) {date : Date} (hdate : date.FourDigitYear) :
    (Selection.ofWindow w).Dated date.toText ↔ w.Reaches date := by
  have hfrom : w.loadFrom.year ≤ 9999 := by
    have hle := Date.le_trans w.loadFrom_le_first w.first_le_last
    have hyear := hlast.2
    rw [Date.le_iff, Date.lt_iff] at hle
    omega
  rw [Selection.Dated, Selection.ofWindow, hdate.toText_lt_toText_iff hfrom, hlast.toText_lt_iff hdate]
  exact Iff.rfl

theorem concerns_iff {client : ClientId} {changes : List Change} {x : Work} :
    Selection.Concerns client.text (changes.map .ofChange) (.ofWork x) ↔ x.Concerns client changes := by
  have hreplacement : ∀ c : Change, c.replacement.map Ident.text = some client.text ↔ c.replacement = some client := by
    intro c
    cases c.replacement with
    | none => simp
    | some id => simp [Ident.ext_iff]
  simp only [Selection.Concerns, Work.Concerns, WorkRow.ofWork, ChangeRow.ofChange, List.mem_map,
    exists_exists_and_eq_and, hreplacement, ← Ident.ext_iff]
  simp only [and_comm]

theorem forall_mem_client {p : String → Prop} :
    (∀ text ∈ (Selection.ofWindow w).client, p text) ↔ ∀ client ∈ w.client, p client.text := by
  rw [Selection.ofWindow]
  cases w.client with
  | none => simp
  | some client => simp

theorem needsWork_iff {x : Work} (hdated : (Selection.ofWindow w).Dated x.date.toText ↔ w.Reaches x.date)
    {changes : List Change} :
    w.NeedsWork changes x ↔ w.Reaches x.date ∧ ∀ client ∈ w.client, x.Concerns client changes := by
  rw [NeedsWork, Selection.SelectsWork, forall_mem_client]
  simp only [concerns_iff]
  rw [← hdated]
  exact Iff.rfl

theorem needsBreak_iff {b : Break} (hdated : (Selection.ofWindow w).Dated b.date.toText ↔ w.Reaches b.date) :
    w.NeedsBreak b ↔ w.Reaches b.date ∧ ∀ client ∈ w.client, b.client = client := by
  rw [NeedsBreak, Selection.SelectsBreak, forall_mem_client]
  simp only [BreakRow.ofBreak, ← Ident.ext_iff]
  rw [← hdated]

end Window

namespace RecordSet

variable {r : RecordSet} {w : Window}

theorem mem_snapshot_breaks {b : Break} : b ∈ (r.snapshot w).breaks ↔ b ∈ r.breaks ∧ w.NeedsBreak b := by
  rw [snapshot, List.mem_filter, mem_sortByKey, decide_eq_true_iff]

theorem mem_snapshot_changes (hr : r.Distinct) {c : Change} :
    c ∈ (r.snapshot w).changes ↔ c ∈ r.changes ∧ ∃ x ∈ (r.snapshot w).works, c.work = x.id := by
  simp only [mem_snapshot_works]
  simp only [snapshot, List.mem_map, List.mem_filter, mem_sortByKey, mem_joined hr, decide_eq_true_eq]
  constructor
  · intro h
    obtain ⟨p, ⟨⟨hx, hc, hwork⟩, hneeds⟩, rfl⟩ := h
    exact ⟨hc, p.1, ⟨hx, hneeds⟩, hwork⟩
  · intro h
    obtain ⟨hc, x, ⟨hx, hneeds⟩, hwork⟩ := h
    exact ⟨(x, c), ⟨⟨hx, hc, hwork⟩, hneeds⟩, rfl⟩

theorem Distinct.snapshot (hr : r.Distinct) (w : Window) : (r.snapshot w).Distinct where
  works := (((sortByKey_perm Work.rowKey r.works).map Work.id).nodup_iff.2 hr.works).sublist
    (List.filter_sublist.map Work.id)
  changes := by
    have hjoined : ((r.joined.map Prod.snd).map Change.id).Nodup := by
      rw [joined_snd]
      exact hr.changes.sublist (List.filter_sublist.map Change.id)
    have hsorted := ((sortByKey_perm JoinedChange.pairKey r.joined).map Prod.snd).map Change.id
    exact (hsorted.nodup_iff.2 hjoined).sublist ((List.filter_sublist.map Prod.snd).map Change.id)
  breaks := (((sortByKey_perm Break.rowKey r.breaks).map Break.id).nodup_iff.2 hr.breaks).sublist
    (List.filter_sublist.map Break.id)

/-! ### Order -/

theorem snapshot_works_increasing (hr : r.Distinct) (hfour : r.FourDigitYears) :
    (r.snapshot w).works.Pairwise fun x y => x.slot < y.slot :=
  (Slot.sortByKey_increasing Work.slot hfour.works hr.workKeys).filter _

theorem snapshot_breaks_increasing (hr : r.Distinct) (hfour : r.FourDigitYears) :
    (r.snapshot w).breaks.Pairwise fun a b => a.slot < b.slot :=
  (Slot.sortByKey_increasing Break.slot hfour.breaks hr.breakKeys).filter _

theorem pairKey_eq (hr : r.Distinct) {p : Work × Change} (hp : p ∈ r.joined) :
    JoinedChange.pairKey p = p.1.slot.key ++ [p.2.id.text] := by
  have hwork : p.2.work.text = p.1.id.text := congrArg Ident.text ((mem_joined hr).1 hp).2.2
  show [_, _, p.2.work.text, _] = _
  rw [hwork]
  rfl

theorem snapshot_changes_increasing (hr : r.Distinct) (hfour : r.FourDigitYears) :
    (r.snapshot w).changes.Pairwise fun c d => ∀ x ∈ (r.snapshot w).works, ∀ y ∈ (r.snapshot w).works,
      c.work = x.id → d.work = y.id → x.slot < y.slot ∨ x = y ∧ c.id < d.id := by
  have hpairs := (sortByKey_strict JoinedChange.pairKey hr.pairKeys).filter fun p => w.NeedsWork r.changes p.1
  refine List.pairwise_map.2 (List.Pairwise.imp_of_mem ?_ hpairs)
  -- `x` and `y` are looked up by identifier; they are the works that the changes were joined with.
  intro p q hp hq hkey x hx y hy hpx hqy
  have hp := (mem_sortByKey _).1 (List.mem_filter.1 hp).1
  have hq := (mem_sortByKey _).1 (List.mem_filter.1 hq).1
  have hx := (mem_snapshot_works.1 hx).1
  have hy := (mem_snapshot_works.1 hy).1
  obtain ⟨hpwork, -, hpid⟩ := (mem_joined hr).1 hp
  obtain ⟨hqwork, -, hqid⟩ := (mem_joined hr).1 hq
  have hpx : p.1 = x := List.inj_on_of_nodup_map hr.works hpwork hx (hpid.symm.trans hpx)
  have hqy : q.1 = y := List.inj_on_of_nodup_map hr.works hqwork hy (hqid.symm.trans hqy)
  rw [pairKey_eq hr hp, pairKey_eq hr hq,
    Slot.key_append_lt_iff (a := p.1.slot) (b := q.1.slot) (hfour.works _ hpwork) (hfour.works _ hqwork), hpx, hqy]
    at hkey
  refine hkey.imp_right fun h => ?_
  obtain ⟨hslot, hid⟩ := h
  have hxy : x.id = y.id := Ident.ext_iff.2 (congrArg Slot.id hslot)
  have hid : p.2.id.text < q.2.id.text := by simpa [List.cons_lt_cons_iff] using hid
  exact ⟨List.inj_on_of_nodup_map hr.works hx hy hxy, hid⟩

theorem window_snapshot (hr : r.Distinct) (hfour : r.FourDigitYears) (hlast : w.last.FourDigitYear) :
    w.Snapshot r (r.snapshot w) where
  distinct := hr.snapshot w
  mem_works x := by
    rw [mem_snapshot_works]
    exact and_congr_right fun hx => Window.needsWork_iff (Window.dated_iff hlast (hfour.works x hx))
  mem_changes c := mem_snapshot_changes hr
  mem_breaks b := by
    rw [mem_snapshot_breaks]
    exact and_congr_right fun hb => Window.needsBreak_iff (Window.dated_iff hlast (hfour.breaks b hb))
  works_increasing := snapshot_works_increasing hr hfour
  breaks_increasing := snapshot_breaks_increasing hr hfour
  changes_increasing := snapshot_changes_increasing hr hfour

end RecordSet

/-- A store that was filled from batches of four-digit years answers a query with the records it asks for, sorted. -/
theorem load_returns_snapshot {batches : List RecordSet} (hyears : ∀ r ∈ batches, r.FourDigitYears) {w : Window}
    (hlast : w.last.FourDigitYear) :
    ∃ stored loaded, Store.empty.insertAll batches = Store.holding stored ∧
      (Store.empty.insertAll batches).load w = .ok loaded ∧ w.Snapshot stored loaded := by
  have hdistinct := RecordSet.distinct_mergeAll batches
  have hfour := RecordSet.fourDigitYears_mergeAll hyears
  have hstored := Store.insertAll_empty batches
  refine ⟨_, _, hstored, ?_, RecordSet.window_snapshot hdistinct hfour hlast⟩
  rw [hstored]
  exact Store.load_holding hdistinct w

/-- Two works that begin half a second before two and in the leap second after. One change hands a part of the
first to the client of the second, the other belongs to no work. -/
def leapNight : RecordSet :=
  ⟨[⟨⟨"matinee", by decide⟩, ⟨"C8", by decide⟩, ⟨"S9", by decide⟩, ⟨2025, 6, 20, by decide⟩,
      ⟨7199, 500000000, by decide, by decide, by decide⟩, .ofNanos (4 * 3600 * nanosPerSecond)⟩,
    ⟨⟨"encore", by decide⟩, ⟨"C9", by decide⟩, ⟨"S10", by decide⟩, ⟨2025, 6, 20, by decide⟩,
      ⟨7199, 1500000000, by decide, by decide, by decide⟩, .ofNanos (3 * 3600 * nanosPerSecond)⟩],
    [⟨⟨"stand-in", by decide⟩, ⟨"matinee", by decide⟩, .endReplacement, .ofNanos (2 * 3600 * nanosPerSecond),
      .ofNanos (4 * 3600 * nanosPerSecond), some ⟨"C9", by decide⟩⟩,
    ⟨⟨"astray", by decide⟩, ⟨"cancelled", by decide⟩, .endReplacement, .ofNanos (2 * 3600 * nanosPerSecond),
      .ofNanos (4 * 3600 * nanosPerSecond), some ⟨"C9", by decide⟩⟩], []⟩

/-- The morning after, for the client who stands in. -/
def leapMorning : Window :=
  ⟨⟨2025, 6, 21, by decide⟩, ⟨2025, 6, 21, by decide⟩, some ⟨"C9", by decide⟩, by decide⟩

theorem leapMorning_returns_snapshot :
    (∀ r ∈ [leapNight], r.FourDigitYears) ∧ leapMorning.last.FourDigitYear ∧
      ∃ stored loaded, Store.empty.insertAll [leapNight] = Store.holding stored ∧
        (Store.empty.insertAll [leapNight]).load leapMorning = .ok loaded ∧ leapMorning.Snapshot stored loaded := by
  have hyears : ∀ r ∈ [leapNight], r.FourDigitYears := List.forall_mem_singleton.2 ⟨by decide, by decide⟩
  exact ⟨hyears, by decide, load_returns_snapshot hyears (by decide)⟩

end Roster
