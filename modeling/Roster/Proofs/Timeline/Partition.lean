import Mathlib.Data.List.Sort
import Roster.Proofs.Calendar.Order
import Roster.Report
/-!
# What the timelines of a list of rects are

`Timeline.ofRects` files one rect after the other. `Timeline.Files` says what has been reached after any number of
them: the timelines are in strict order of client and date, and each holds, in their order, exactly the rects of its
client and date. One rect keeps it (`Files.file`), so it holds at the end, and it leaves no choice: the timelines are
those of `clientDays`, taken from the rects by a filter (`ofRects_eq`). Selecting timelines by client and date is
therefore the same as selecting rects first (`filter_ofRects`), which is how the windows of reports are compared.
-/

namespace Roster

namespace Ident

variable {kind : IdentKind}

theorem lt_irrefl (a : Ident kind) : ¬ a < a := String.lt_irrefl a.text

theorem lt_trans {a b c : Ident kind} (hab : a < b) (hbc : b < c) : a < c :=
  String.lt_trans (a := a.text) (b := b.text) (c := c.text) hab hbc

theorem lt_trichotomy (a b : Ident kind) : a < b ∨ a = b ∨ b < a := by
  by_cases hab : a.text < b.text
  · exact .inl hab
  · by_cases hba : b.text < a.text
    · exact .inr (.inr hba)
    · exact .inr (.inl (ext_iff.2 (String.le_antisymm hba hab)))

end Ident

/-- A client on a date, which is what a timeline is about. -/
structure ClientDay where
  client : ClientId
  date : Date
deriving DecidableEq

namespace ClientDay

instance : LT ClientDay := ⟨fun a b => a.client < b.client ∨ a.client = b.client ∧ a.date < b.date⟩

theorem lt_irrefl (a : ClientDay) : ¬ a < a := by
  rintro (h | ⟨-, h⟩)
  · exact Ident.lt_irrefl _ h
  · exact Date.lt_irrefl _ h

theorem lt_trans {a b c : ClientDay} (hab : a < b) (hbc : b < c) : a < c := by
  rcases hab with hab | ⟨hclient, hab⟩ <;> rcases hbc with hbc | ⟨hclient', hbc⟩
  · exact .inl (Ident.lt_trans hab hbc)
  · exact .inl (hclient' ▸ hab)
  · exact .inl (hclient ▸ hbc)
  · exact .inr ⟨hclient.trans hclient', Date.lt_trans hab hbc⟩

theorem lt_trichotomy (a b : ClientDay) : a < b ∨ a = b ∨ b < a := by
  obtain ⟨client, date⟩ := a
  obtain ⟨client', date'⟩ := b
  rcases Ident.lt_trichotomy client client' with h | rfl | h
  · exact .inl (.inl h)
  · rcases Date.lt_trichotomy date date' with h | rfl | h
    · exact .inl (.inr ⟨rfl, h⟩)
    · exact .inr (.inl rfl)
    · exact .inr (.inr (.inr ⟨rfl, h⟩))
  · exact .inr (.inr (.inl h))

instance : Std.Asymm (α := ClientDay) (· < ·) :=
  ⟨fun a _ hab hba => lt_irrefl a (lt_trans hab hba)⟩

end ClientDay

def Rect.clientDay (r : Rect) : ClientDay := ⟨r.client, r.date⟩

def Timeline.clientDay (t : Timeline) : ClientDay := ⟨t.client, t.date⟩

namespace Timeline

theorem precedes_iff {t : Timeline} {r : Rect} : t.Precedes r ↔ t.clientDay < r.clientDay := Iff.rfl

/-- Each timeline comes before all that follow it. -/
def Increasing (ts : List Timeline) : Prop := ts.Pairwise fun t u => t.clientDay < u.clientDay

/-- A rect goes to the end of its timeline, which stands between those that come earlier and later; if there is
none yet, it opens one there. -/
theorem file_eq (r : Rect) {ts : List Timeline} (hts : Increasing ts) :
    ∃ earlier later held, (∀ t ∈ earlier, t.clientDay < r.clientDay) ∧ (∀ t ∈ later, r.clientDay < t.clientDay) ∧
      file r ts = earlier ++ ⟨r.client, r.date, held ++ [r]⟩ :: later ∧
      (ts = earlier ++ later ∧ held = [] ∨ ts = earlier ++ ⟨r.client, r.date, held⟩ :: later) := by
  induction ts with
  | nil => exact ⟨[], [], [], by simp, by simp, rfl, .inl ⟨rfl, rfl⟩⟩
  | cons t ts ih =>
      obtain ⟨hfirst, hrest⟩ := List.pairwise_cons.1 hts
      unfold file
      split
      · rename_i hbefore
        obtain ⟨earlier, later, held, hearlier, hlater, hfile, hts⟩ := ih hrest
        refine ⟨t :: earlier, later, held, ?_, hlater, by rw [hfile]; rfl, ?_⟩
        · exact List.forall_mem_cons.2 ⟨precedes_iff.1 hbefore, hearlier⟩
        · exact hts.imp (fun h => ⟨congrArg _ h.1, h.2⟩) (congrArg _)
      · rename_i hbefore
        split
        · rename_i hsame
          obtain ⟨client, date, held⟩ := t
          obtain ⟨rfl, rfl⟩ := hsame
          exact ⟨[], ts, held, by simp, hfirst, rfl, .inr rfl⟩
        · rename_i hother
          have hday : r.clientDay < t.clientDay := by
            rcases ClientDay.lt_trichotomy t.clientDay r.clientDay with h | h | h
            · exact absurd (precedes_iff.2 h) hbefore
            · exact absurd ⟨congrArg ClientDay.client h, congrArg ClientDay.date h⟩ hother
            · exact h
          refine ⟨[], t :: ts, [], by simp, List.forall_mem_cons.2 ⟨hday, fun u hu => ?_⟩, rfl, .inl ⟨rfl, rfl⟩⟩
          exact ClientDay.lt_trans hday (hfirst u hu)

/-- The timelines are in order, each client and date of a rect has one, and it holds all rects of its client and
date in their order. -/
structure Files (rects : List Rect) (ts : List Timeline) : Prop where
  increasing : Increasing ts
  rects_eq : ∀ t ∈ ts, t.rects = rects.filter fun r => r.clientDay = t.clientDay
  exists_iff : ∀ d, (∃ t ∈ ts, t.clientDay = d) ↔ ∃ r ∈ rects, r.clientDay = d

theorem Files.nil : Files [] [] := ⟨List.Pairwise.nil, by simp, by simp⟩

theorem Files.filter_eq_nil {rects : List Rect} {ts : List Timeline} (h : Files rects ts) {d : ClientDay}
    (hd : ∀ t ∈ ts, t.clientDay ≠ d) : (rects.filter fun r => r.clientDay = d) = [] := by
  rw [List.filter_eq_nil_iff]
  intro r hr heq
  obtain ⟨t, ht, hday⟩ := (h.exists_iff d).2 ⟨r, hr, of_decide_eq_true heq⟩
  exact hd t ht hday

private theorem exists_mem_middle {earlier later : List Timeline} {t : Timeline} {p : Timeline → Prop} :
    (∃ u ∈ earlier ++ t :: later, p u) ↔ p t ∨ ∃ u ∈ earlier ++ later, p u := by
  simp only [List.perm_middle.mem_iff, List.mem_cons, exists_eq_or_imp]

theorem Files.file {rects : List Rect} {ts : List Timeline} (h : Files rects ts) (r : Rect) :
    Files (rects ++ [r]) (file r ts) := by
  obtain ⟨earlier, later, held, hearlier, hlater, hfile, hts⟩ := file_eq r h.increasing
  have hne : ∀ t ∈ earlier ++ later, t.clientDay ≠ r.clientDay := by
    intro t ht heq
    rcases List.mem_append.1 ht with ht | ht
    · exact ClientDay.lt_irrefl _ (heq ▸ hearlier t ht)
    · exact ClientDay.lt_irrefl _ (heq ▸ hlater t ht)
  have hsub : (earlier ++ later).Sublist ts := by
    rcases hts with ⟨rfl, -⟩ | rfl
    · exact List.Sublist.refl _
    · exact (List.sublist_cons_self _ _).append_left _
  have hheld : held = rects.filter fun s => s.clientDay = r.clientDay := by
    rcases hts with ⟨rfl, rfl⟩ | rfl
    · exact (h.filter_eq_nil hne).symm
    · exact h.rects_eq _ (List.mem_append_right _ List.mem_cons_self)
  -- Apart from the timeline that takes the rect, there is one for the same clients and dates as before.
  have hdays : ∀ d, r.clientDay = d ∨ (∃ t ∈ earlier ++ later, t.clientDay = d) ↔
      r.clientDay = d ∨ ∃ t ∈ ts, t.clientDay = d := by
    intro d
    rcases hts with ⟨rfl, -⟩ | rfl
    · exact Iff.rfl
    · rw [exists_mem_middle]
      exact or_self_left.symm
  rw [hfile]
  refine ⟨?_, fun t ht => ?_, fun d => ?_⟩
  · obtain ⟨hearly, hlate, hacross⟩ := List.pairwise_append.1 (h.increasing.sublist hsub)
    refine List.pairwise_append.2 ⟨hearly, List.pairwise_cons.2 ⟨hlater, hlate⟩, fun t ht u hu => ?_⟩
    rcases List.mem_cons.1 hu with rfl | hu
    · exact hearlier t ht
    · exact hacross t ht u hu
  · rw [List.filter_append]
    rcases List.mem_cons.1 (List.perm_middle.mem_iff.1 ht) with rfl | ht
    · have hself : ([r].filter fun s => s.clientDay = r.clientDay) = [r] :=
        List.filter_cons_of_pos (decide_eq_true (Eq.refl r.clientDay))
      exact congrArg₂ (· ++ ·) hheld hself.symm
    · rw [h.rects_eq t (hsub.subset ht)]
      have hother : ([r].filter fun s => s.clientDay = t.clientDay) = [] :=
        List.filter_cons_of_neg fun heq => hne t ht (of_decide_eq_true heq).symm
      rw [hother, List.append_nil]
  · rw [exists_mem_middle]
    calc r.clientDay = d ∨ (∃ t ∈ earlier ++ later, t.clientDay = d)
        ↔ r.clientDay = d ∨ ∃ t ∈ ts, t.clientDay = d := hdays d
      _ ↔ r.clientDay = d ∨ ∃ s ∈ rects, s.clientDay = d := or_congr_right (h.exists_iff d)
      _ ↔ ∃ s ∈ rects ++ [r], s.clientDay = d := by
          simp only [List.mem_append, List.mem_singleton, or_and_right, exists_or, exists_eq_left, or_comm]

theorem files_ofRects (rects : List Rect) : Files rects (ofRects rects) := by
  suffices h : ∀ filed ts, Files filed ts →
      Files (filed ++ rects) (rects.foldl (fun ts r => Timeline.file r ts) ts) from h [] [] Files.nil
  induction rects with
  | nil =>
      intro filed ts h
      rwa [List.append_nil]
  | cons r rects ih =>
      intro filed ts h
      rw [List.append_cons]
      exact ih _ _ (h.file r)

theorem flatMap_rects_file (r : Rect) (ts : List Timeline) :
    ((Timeline.file r ts).flatMap Timeline.rects).Perm (r :: ts.flatMap Timeline.rects) := by
  induction ts with
  | nil => exact List.Perm.refl _
  | cons t ts ih =>
      unfold file
      split
      · rw [List.flatMap_cons, List.flatMap_cons]
        exact (ih.append_left _).trans List.perm_middle
      · split
        · rw [List.flatMap_cons, List.flatMap_cons, push, List.append_assoc]
          exact List.perm_middle
        · exact List.Perm.refl _

/-- No rect is lost, and none is there twice. -/
theorem flatMap_rects_ofRects (rects : List Rect) : ((ofRects rects).flatMap Timeline.rects).Perm rects := by
  suffices h : ∀ ts, ((rects.foldl (fun ts r => Timeline.file r ts) ts).flatMap Timeline.rects).Perm
      (ts.flatMap Timeline.rects ++ rects) from h []
  induction rects with
  | nil => simp
  | cons r rects ih =>
      intro ts
      rw [List.foldl_cons]
      exact (ih _).trans (((flatMap_rects_file r ts).append_right _).trans List.perm_middle.symm)

/-- The clients and dates of rects, in order. -/
def clientDays (rects : List Rect) : List ClientDay := (ofRects rects).map clientDay

/-- The timeline of a client and date, with the rects that belong to it. -/
def among (rects : List Rect) (d : ClientDay) : Timeline :=
  ⟨d.client, d.date, rects.filter fun r => r.clientDay = d⟩

theorem clientDays_pairwise (rects : List Rect) : (clientDays rects).Pairwise (· < ·) :=
  List.pairwise_map.2 (files_ofRects rects).increasing

theorem mem_clientDays {rects : List Rect} {d : ClientDay} :
    d ∈ clientDays rects ↔ ∃ r ∈ rects, r.clientDay = d := by
  rw [clientDays, List.mem_map]
  exact (files_ofRects rects).exists_iff d

theorem Files.eq_map_among {rects : List Rect} {ts : List Timeline} (h : Files rects ts) :
    ts = (ts.map clientDay).map (among rects) := by
  rw [List.map_map]
  refine (List.map_id _).symm.trans (List.map_congr_left ?_)
  intro t ht
  rw [Function.comp_apply, among, ← h.rects_eq t ht]
  rfl

/-- The timelines of rects are the filters of the rects by their clients and dates. -/
theorem ofRects_eq (rects : List Rect) : ofRects rects = (clientDays rects).map (among rects) :=
  (files_ofRects rects).eq_map_among

theorem clientDays_eq_of_mem_iff {rects : List Rect} {days : List ClientDay} (hdays : days.Pairwise (· < ·))
    (hmem : ∀ d, d ∈ days ↔ ∃ r ∈ rects, r.clientDay = d) : clientDays rects = days :=
  (clientDays_pairwise rects).eq_of_mem_iff hdays fun d => mem_clientDays.trans (hmem d).symm

/-- What is reached by filing rects does not depend on how it is reached. -/
theorem Files.eq_ofRects {rects : List Rect} {ts : List Timeline} (h : Files rects ts) : ts = ofRects rects := by
  have hdays : clientDays rects = ts.map clientDay := by
    apply clientDays_eq_of_mem_iff (List.pairwise_map.2 h.increasing)
    intro d
    rw [List.mem_map]
    exact h.exists_iff d
  rw [ofRects_eq, hdays]
  exact h.eq_map_among

theorem clientDays_filter (p : ClientDay → Bool) (rects : List Rect) :
    clientDays (rects.filter fun r => p r.clientDay) = (clientDays rects).filter p := by
  apply clientDays_eq_of_mem_iff ((clientDays_pairwise rects).filter p)
  intro d
  rw [List.mem_filter, mem_clientDays]
  constructor
  · intro h
    obtain ⟨⟨r, hr, rfl⟩, hp⟩ := h
    exact ⟨r, List.mem_filter.2 ⟨hr, hp⟩, rfl⟩
  · intro h
    obtain ⟨r, hr, rfl⟩ := h
    obtain ⟨hr, hp⟩ := List.mem_filter.1 hr
    exact ⟨⟨r, hr, rfl⟩, hp⟩

theorem clientDays_of_perm {rects rects' : List Rect} (h : rects.Perm rects') :
    clientDays rects = clientDays rects' :=
  clientDays_eq_of_mem_iff (clientDays_pairwise rects') fun d => by
    rw [mem_clientDays]
    simp only [h.mem_iff]

theorem among_filter {p : ClientDay → Bool} (rects : List Rect) {d : ClientDay} (hd : p d = true) :
    among (rects.filter fun r => p r.clientDay) d = among rects d := by
  rw [among, List.filter_filter, among]
  congr 1
  apply List.filter_congr
  intro r _
  by_cases h : r.clientDay = d <;> simp [h, hd]

theorem filter_ofRects (p : ClientDay → Bool) (rects : List Rect) :
    (ofRects rects).filter (fun t => p t.clientDay) = ofRects (rects.filter fun r => p r.clientDay) := by
  rw [ofRects_eq, ofRects_eq, clientDays_filter, List.filter_map]
  apply List.map_congr_left
  intro d hd
  exact (among_filter rects (List.mem_filter.1 hd).2).symm

end Timeline

/-- The window reports on the rect's client and date. -/
def Window.CoversRect (w : Window) (r : Rect) : Prop := w.Covers r.client r.date

instance (w : Window) (r : Rect) : Decidable (w.CoversRect r) := by
  unfold Window.CoversRect; infer_instance

/-- The rects that a window covers, in the order given. -/
def Window.covered (w : Window) (rects : List Rect) : List Rect := rects.filter fun r => w.CoversRect r

theorem RecordSet.timelines_eq (r : RecordSet) (w : Window) : r.timelines w = Timeline.ofRects (w.covered r.rects) :=
  Timeline.filter_ofRects (fun d => w.Covers d.client d.date) r.rects

end Roster
