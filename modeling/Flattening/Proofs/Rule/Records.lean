import Flattening.Proofs.Rule.Run
import Flattening.Proofs.Rule.Views
import Mathlib.Data.List.Basic
import Mathlib.Order.Fin.Basic

/-!
# Which block entities a run takes

A rule that follows a block entity takes the one in its cell whenever there is one, and no other
rule takes any.  So after a run the cells that waited for such a rule are without block entity,
and every other cell still has its own.

* `record?_stepReporting`   one cell;
* `record?_apply`, `record?_runGroups`   from cells to runs;
* `followsRecord_iff`       the block ids whose rule follows a block entity.
-/

namespace Flattening

namespace Rule

/-- the block ids whose rule follows a block entity -/
def recordBlocks : List Nat := [25, 26, 140, 144, 176, 177]

theorem followsRecord_iff {b : Nat} :
    (∃ r, ofBlock? b = some r ∧ r.isRecordDriven = true) ↔ b ∈ recordBlocks := by
  have hall : ∀ b ∈ ruledBlocks,
      (ofBlock? b).any isRecordDriven = recordBlocks.contains b := by decide
  constructor
  · rintro ⟨r, hr, hd⟩
    have hb : b ∈ ruledBlocks := by
      rw [← ofBlock?_isSome_iff, hr]
      rfl
    have h := hall b hb
    rw [hr, Option.any_some, hd] at h
    exact List.contains_iff_mem.1 h.symm
  · intro hb
    have hruled : recordBlocks ⊆ ruledBlocks := by decide
    have h := hall b (hruled hb)
    rw [List.contains_iff_mem.2 hb, Option.any_eq_true] at h
    exact h

theorem record?_of_fromRecord {m : Unresolved} {f : BlockState → Tag → Option BlockState} {v : View}
    {i : ColumnCell} {u : Unresolved} (h : fromRecord m f v i = .error u) :
    v.record? i = none := by
  unfold fromRecord at h
  split at h
  · assumption
  · split at h <;> cases h

theorem record?_of_plan_error {r : Rule} (hr : r.isRecordDriven = true) {v : View}
    {i : ColumnCell} {u : Unresolved} (h : r.plan v i = .error u) : v.record? i = none := by
  unfold plan at h
  cases r with
  | noteBlock | bed | flowerPot | skull | banner => exact record?_of_fromRecord h
  | snowyGround | door | pumpkin | doublePlant => cases hr

/-- A rule that follows a block entity leaves none in its cell; nothing else is taken. -/
theorem record?_stepReporting (r : Rule) (v : View) (log : Array Event) (i j : ColumnCell) :
    (r.stepReporting (v, log) i).1.record? j =
      if r.isRecordDriven ∧ j = i then none else v.record? j := by
  obtain ⟨e, he, hs⟩ | ⟨u, hu, hs⟩ := r.stepReporting_cases (v, log) i
  · rw [hs, View.record?_perform, consumes_of_plan he]
  · rw [hs]
    split
    · rename_i h
      rw [h.2]
      exact record?_of_plan_error h.1 hu
    · rfl

theorem record?_apply (r : Rule) (cells : List ColumnCell) (v : View) (log : Array Event)
    (j : ColumnCell) :
    (r.apply cells v log).1.record? j =
      if r.isRecordDriven ∧ j ∈ cells then none else v.record? j := by
  induction cells generalizing v log with
  | nil => simp [apply_nil]
  | cons i cells ih =>
    rw [apply_cons, ih, record?_stepReporting]
    by_cases hd : r.isRecordDriven = true
    · by_cases hi : j = i
      · simp [hd, hi]
      · simp [hd, hi]
    · simp [hd]

end Rule

namespace Chunk

/-- The cell waits in a group whose rule follows a block entity. -/
def WaitsForRecord (gs : List Group) (j : ColumnCell) : Prop :=
  ∃ g ∈ gs, g.block ∈ Rule.recordBlocks ∧ j ∈ g.columnCells

instance (gs : List Group) (j : ColumnCell) : Decidable (WaitsForRecord gs j) :=
  inferInstanceAs (Decidable (∃ g ∈ gs, g.block ∈ Rule.recordBlocks ∧ j ∈ g.columnCells))

theorem waitsForRecord_cons {g : Group} {gs : List Group} {j : ColumnCell} :
    WaitsForRecord (g :: gs) j ↔
      (g.block ∈ Rule.recordBlocks ∧ j ∈ g.columnCells) ∨ WaitsForRecord gs j :=
  List.exists_mem_cons_iff (fun g : Group => g.block ∈ Rule.recordBlocks ∧ j ∈ g.columnCells) g gs

theorem record?_runGroup (g : Group) (v : View) (log : Array Event) (j : ColumnCell) :
    (runGroup (v, log) g).1.record? j =
      if g.block ∈ Rule.recordBlocks ∧ j ∈ g.columnCells then none else v.record? j := by
  cases hr : Rule.ofBlock? g.block with
  | none =>
    have hnot : g.block ∉ Rule.recordBlocks := by
      intro hb
      obtain ⟨r, hr', -⟩ := Rule.followsRecord_iff.2 hb
      rw [hr] at hr'
      cases hr'
    rw [runGroup_of_no_rule hr, if_neg fun h => hnot h.1]
  | some r =>
    have hiff : g.block ∈ Rule.recordBlocks ↔ r.isRecordDriven = true := by
      rw [← Rule.followsRecord_iff, hr]
      simp
    rw [runGroup_of_rule hr, Rule.record?_apply]
    simp only [hiff]

/-- **After a run the cells that waited for a block entity are without one**, and every other
cell still has its own. -/
theorem record?_runGroups (gs : List Group) (v : View) (log : Array Event) (j : ColumnCell) :
    (runGroups gs v log).1.record? j = if WaitsForRecord gs j then none else v.record? j := by
  induction gs generalizing v log with
  | nil => simp [runGroups_nil, WaitsForRecord]
  | cons g gs ih =>
    rw [runGroups_cons, ih, record?_runGroup]
    by_cases hg : g.block ∈ Rule.recordBlocks ∧ j ∈ g.columnCells
    · have h : WaitsForRecord (g :: gs) j := waitsForRecord_cons.2 (.inl hg)
      rw [if_pos hg, if_pos h, ite_self]
    · have h : WaitsForRecord (g :: gs) j ↔ WaitsForRecord gs j :=
        waitsForRecord_cons.trans (or_iff_right hg)
      rw [if_neg hg]
      simp only [h]

end Chunk

end Flattening
