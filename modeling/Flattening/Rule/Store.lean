import Flattening.Report.Event
import Flattening.Rule.Effect

/-!
# Running a rule over cells

A rule runs over a list of cells in the order given, and each cell sees what the ones before it
wrote.

* `apply_nil`, `apply_cons`   how a run goes on;
* `stepReporting_of_gives_up`, `stepReporting_of_resolved`   what a step makes of a rule's outcome;
* `fst_apply`                 the events so far have no effect on the store.
-/

namespace Flattening

namespace Rule

variable {σ : Type} [CellStore σ]

/-- One cell of a run, with the events so far.  The store goes on as the rule left it, also
where the rule gave up. -/
def stepReporting (r : Rule) (p : σ × Array Event) (i : ColumnCell) : σ × Array Event :=
  match r.act i p.1 with
  | (.ok (), s) => (s, p.2)
  | (.error u, s) => (s, p.2.push (.unresolved r i u))

/-- Runs a rule over cells; the events are added to those so far. -/
def apply (r : Rule) (cells : List ColumnCell) (s : σ) (log : Array Event) : σ × Array Event :=
  cells.foldl r.stepReporting (s, log)

theorem apply_nil (r : Rule) (s : σ) (log : Array Event) : r.apply [] s log = (s, log) := rfl

theorem apply_cons (r : Rule) (i : ColumnCell) (cells : List ColumnCell) (s : σ)
    (log : Array Event) :
    r.apply (i :: cells) s log =
      r.apply cells (r.stepReporting (s, log) i).1 (r.stepReporting (s, log) i).2 := rfl

theorem stepReporting_of_resolved {r : Rule} {s t : σ} {i : ColumnCell}
    (h : r.act i s = (.ok (), t)) (log : Array Event) :
    r.stepReporting (s, log) i = (t, log) := by
  rw [stepReporting, h]

theorem stepReporting_of_gives_up {r : Rule} {s t : σ} {i : ColumnCell} {u : Unresolved}
    (h : r.act i s = (.error u, t)) (log : Array Event) :
    r.stepReporting (s, log) i = (t, log.push (.unresolved r i u)) := by
  rw [stepReporting, h]

theorem fst_stepReporting (r : Rule) (s : σ) (log : Array Event) (i : ColumnCell) :
    (r.stepReporting (s, log) i).1 = (r.act i s).2 := by
  rcases h : r.act i s with ⟨_ | _, t⟩
  · rw [stepReporting_of_gives_up h]
  · rw [stepReporting_of_resolved h]

/-- The events so far have no effect on the store. -/
theorem fst_apply (r : Rule) (cells : List ColumnCell) (s : σ) (log log' : Array Event) :
    (r.apply cells s log).1 = (r.apply cells s log').1 := by
  induction cells generalizing s log log' with
  | nil => rfl
  | cons i cells ih =>
    rw [apply_cons, apply_cons, fst_stepReporting, fst_stepReporting]
    exact ih ..

end Rule

/-! ## a store of two tables -/

/-- A chunk given by a table of blocks and a table of block entities.  Cells that are not in
the table are air, and every state written lands. -/
structure FlatStore where
  blocks : Entries ColumnCell BlockState
  records : Entries ColumnCell Tag
  fromAlpha : Bool

instance : CellStore FlatStore where
  block s i := (Entries.get? i s.blocks).getD .air
  record? s i := Entries.get? i s.records
  fromAlpha s := s.fromAlpha
  setBlock s i b := { s with blocks := Entries.insert i b s.blocks }
  consume s i := { s with records := Entries.erase i s.records }
  block_consume _ _ := rfl

end Flattening
