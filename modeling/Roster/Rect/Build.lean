import Roster.Frame
import Roster.Rect
/-!
# The rects of a record set

The changes are first put together by the works they belong to, in one pass (`ChangesByWork`). Each work then gives
the rects of what its changes leave of it, followed by the rects of the changes; works of one identifier share their
changes. Breaks give their rects after all works. Every interval is cut at midnight, counted from the date of its work
or break. Changes of works that are not in the set give nothing. No record is refused.
-/

namespace Roster

/-- Where the rects of one interval come from and whose they are. -/
structure Origin where
  source : SourceId
  kind : RectKind
  client : ClientId
  change : Option ChangeId

def Origin.rect (o : Origin) (span : DaySpan) : Rect :=
  ⟨o.source, o.kind, o.client, span.date, span.start, span.finish, o.change⟩

def Origin.rects (o : Origin) (date : Date) (start finish : TimeOfDay) : List Rect :=
  (splitAtMidnight date start finish).map o.rect

/-- Changes put together by the works they belong to. -/
abbrev ChangesByWork := List (WorkId × List Change)

namespace ChangesByWork

/-- Puts a change behind the others of its work. -/
def add (c : Change) : ChangesByWork → ChangesByWork
  | [] => [(c.work, [c])]
  | (id, held) :: groups => if id = c.work then (id, held ++ [c]) :: groups else (id, held) :: add c groups

/-- Takes the changes one after the other and leaves out those of works that are not known. -/
def ofChanges (known : List WorkId) (changes : List Change) : ChangesByWork :=
  changes.foldl (fun groups c => if c.work ∈ known then add c groups else groups) []

def changesOf (groups : ChangesByWork) (id : WorkId) : List Change := (groups.lookup id).getD []

end ChangesByWork

/-- The client a change belongs to: a replacement to the client it names, all else to the work's client. -/
def Change.owner (c : Change) (w : Work) : ClientId :=
  if c.kind.isReplacement then c.replacement.getD w.client else w.client

def Change.rectKind (c : Change) : RectKind :=
  if c.kind.isReplacement then .replacement else .correction

def Change.rects (c : Change) (w : Work) : List Rect :=
  Origin.rects ⟨w.id.toSource, c.rectKind, c.owner w, some c.id⟩ w.date c.start c.finish

/-- The rects of what the changes leave of a work. -/
def Work.remainingRects (w : Work) (own : List Change) : List Rect :=
  let f := Frame.ofWork w
  let (start, finish) := w.remaining own
  Origin.rects ⟨w.id.toSource, .work, w.client, none⟩ w.date (f.timeAt start) (f.timeAt finish)

/-- The rects of a work and of the changes it has. -/
def Work.rectsWith (w : Work) (own : List Change) : List Rect :=
  w.remainingRects own ++ own.flatMap fun c => c.rects w

def Break.rects (b : Break) : List Rect :=
  Origin.rects ⟨b.id.toSource, .break, b.client, none⟩ b.date b.start b.finish

def RecordSet.rects (r : RecordSet) : List Rect :=
  let groups := ChangesByWork.ofChanges (r.works.map Work.id) r.changes
  (r.works.flatMap fun w => w.rectsWith (groups.changesOf w.id)) ++ r.breaks.flatMap Break.rects

end Roster
