import Flattening.Proofs.Rule.Independence
import Flattening.Proofs.Rule.Reach

/-!
# A rule in the middle of its run

All rules but the one for doors write only to the cell whose turn it is.  So when a run from below
comes to a cell, all cells below are as they are in the end, and this cell and all above are as
they were at first.

* `block_apply_of_notMem`     cells that have no turn stay as they are;
* `AtTurn`, `exists_atTurn`   what a rule finds when the turn comes to a cell;
* `snowyGround_turn_of_snow`, `pumpkin_turn_of_soil`, `doublePlant_turn_of_plant`
  what a rule makes of the cell when it has the neighbour that it looks for;
* `turn_of_no_record`, `turn_of_record`   and what it makes of it by its block entity.
-/

namespace Flattening

/-- What the view `w` is like at the turn of the cell `i`, in a run that starts with `v` and ends
with `out`: below the cell all is done, and from the cell upward nothing is. -/
structure AtTurn (v out : View) (i : ColumnCell) (w : View) : Prop where
  block_below : ∀ j, j < i → w.block j = out.block j
  block_from : ∀ j, i ≤ j → w.block j = v.block j
  record?_eq : w.record? i = v.record? i

theorem Layout.shows_apply {L : Layout} {v : View} {b : Nat} {r : Rule} {cells : List ColumnCell}
    (hv : L.Shows v) (hr : Rule.ofBlock? b = some r) (hc : ∀ i ∈ cells, L.ids i = some b)
    (log : Array Event) : L.Shows (r.apply cells v log).1 :=
  ((Agree.refl hv (some b)).apply_both hr hc log log).left

/-! ## neighbours -/

/-- Right above the cell, in its chunk, lies snow. -/
def SnowAbove (block : ColumnCell → BlockState) (i : ColumnCell) : Prop :=
  ∃ j, i.above? = some j ∧ (block j).name ∈ ["minecraft:snow", "minecraft:snow_block"]

/-- Right below the cell, in its chunk, lies grass or dirt. -/
def SoilBelow (block : ColumnCell → BlockState) (i : ColumnCell) : Prop :=
  ∃ j, i.below? = some j ∧ (block j).name ∈ ["minecraft:grass_block", "minecraft:dirt"]

section
variable {f g : ColumnCell → BlockState} (h : ∀ j, (f j).sight = (g j).sight)
include h

theorem snowAbove_congr (i : ColumnCell) : SnowAbove f i ↔ SnowAbove g i := by
  have hj : ∀ j, (f j).name ∈ snowNames ↔ (g j).name ∈ snowNames := fun j => by
    rw [← Sight.ofName_eq_snow_iff, ← Sight.ofName_eq_snow_iff]
    exact Eq.congr_left (h j)
  exact exists_congr fun j => and_congr_right fun _ => hj j

theorem soilBelow_congr (i : ColumnCell) : SoilBelow f i ↔ SoilBelow g i := by
  have hj : ∀ j, (f j).name ∈ soilNames ↔ (g j).name ∈ soilNames := fun j => by
    rw [← Sight.ofName_eq_soil_iff, ← Sight.ofName_eq_soil_iff]
    exact Eq.congr_left (h j)
  exact exists_congr fun j => and_congr_right fun _ => hj j

end

namespace Rule

variable {r : Rule} {v : View} {i j : ColumnCell} {cells : List ColumnCell}

/-! ## turns -/

theorem block_stepReporting_ne (hr : r ≠ .door) (h : j ≠ i) (v : View) (log : Array Event) :
    (r.stepReporting (v, log) i).1.block j = v.block j :=
  block_stepReporting_of_not_reaches
    (not_reaches_of_ne_door hr fun hj => h (List.mem_singleton.1 hj)) v log

/-- A cell that has no turn stays as it is. -/
theorem block_apply_of_notMem (hr : r ≠ .door) (h : j ∉ cells) (v : View) (log : Array Event) :
    (r.apply cells v log).1.block j = v.block j :=
  block_apply_of_not_reaches (not_reaches_of_ne_door hr h) v log

/-- **In a run from below each cell is settled at its turn**, when the cells below are settled and
the others are not. -/
theorem exists_atTurn (hr : r ≠ .door) (hsorted : cells.Pairwise fun i j => i < j) (hi : i ∈ cells)
    (v : View) (log : Array Event) :
    ∃ done rest, cells = done ++ i :: rest ∧
      AtTurn v (r.apply cells v log).1 i (r.apply done v log).1 ∧
      (r.apply cells v log).1.block i = (r.stepReporting (r.apply done v log) i).1.block i := by
  obtain ⟨done, rest, rfl⟩ := List.append_of_mem hi
  obtain ⟨-, hrest, hdone⟩ := List.pairwise_append.1 hsorted
  have habove : ∀ j ∈ rest, i < j := (List.pairwise_cons.1 hrest).1
  have hbelow : ∀ j ∈ done, j < i := fun j hj => hdone j hj i List.mem_cons_self
  have hrun : ∀ log, r.apply (done ++ i :: rest) v log =
      r.apply rest (r.stepReporting (r.apply done v log) i).1
        (r.stepReporting (r.apply done v log) i).2 := by
    intro log
    rw [apply, List.foldl_append, List.foldl_cons]
    rfl
  have hnot : ∀ j, j ≤ i → j ∉ rest := fun j hj hjr => absurd (habove j hjr) (Fin.not_lt.2 hj)
  refine ⟨done, rest, rfl, ⟨fun j hj => ?_, fun j hj => ?_, ?_⟩, ?_⟩
  · rw [hrun, block_apply_of_notMem hr (hnot j (Fin.le_of_lt hj))]
    exact (block_stepReporting_ne hr (Fin.ne_of_lt hj) _ _).symm
  · exact block_apply_of_notMem hr (fun hjd => absurd (hbelow j hjd) (Fin.not_lt.2 hj)) v log
  · rw [record?_apply, if_neg]
    rintro ⟨-, hid⟩
    exact Fin.lt_irrefl i (hbelow i hid)
  · rw [hrun, block_apply_of_notMem hr (hnot i (Fin.le_refl i))]

/-! ## what becomes of the cell -/

/-- A turn that writes nothing leaves its cell as it is. -/
theorem turn_of_no_write (h : ∀ e, r.plan v i = .ok e → e.writes = []) (log : Array Event) :
    (r.stepReporting (v, log) i).1.block i = v.block i := by
  obtain ⟨e, he, hs⟩ | ⟨u, -, hs⟩ := r.stepReporting_cases (v, log) i
  · rw [hs]
    apply View.block_perform_of_notMem
    rw [h e he]
    exact fun w hw => absurd hw List.not_mem_nil
  · rw [hs]

theorem turn_of_write {e : Edit} {s : BlockState} (h : r.plan v i = .ok e)
    (he : e.writes = [(i, s)]) (log : Array Event) :
    (r.stepReporting (v, log) i).1.block i = s := by
  have hplan : r.plan (CellStore.view (v, log).1) i = .ok e := h
  rw [stepReporting_of_ok hplan, View.perform_eq, he]
  exact View.block_write_self _ (i, s)

/-! ### rules that look at a neighbour -/

theorem snowyGround_turn_of_snow
    (hg : (v.block i).name ∈ ["minecraft:grass_block", "minecraft:podzol", "minecraft:mycelium"])
    (hs : SnowAbove v.block i) (log : Array Event) :
    (snowyGround.stepReporting (v, log) i).1.block i =
      (v.block i).withProperty "snowy" "true" := by
  obtain ⟨j, hj, hs⟩ := hs
  have hplan : snowyGround.plan v i = _ := planSnowyGround_of_snow hj hg hs
  exact turn_of_write hplan rfl log

theorem snowyGround_turn_of_no_snow
    (h : (v.block i).name ∈ ["minecraft:grass_block", "minecraft:podzol", "minecraft:mycelium"] →
      ¬SnowAbove v.block i) (log : Array Event) :
    (snowyGround.stepReporting (v, log) i).1.block i = v.block i := by
  refine turn_of_no_write (fun e he => ?_) log
  obtain rfl | ⟨j, hj, hg, hs, -⟩ := cases_planSnowyGround he
  · rfl
  · exact absurd ⟨j, hj, hs⟩ (h hg)

theorem pumpkin_turn_of_soil (hn : (v.block i).name = "minecraft:carved_pumpkin")
    (hs : SoilBelow v.block i) (log : Array Event) :
    (pumpkin.stepReporting (v, log) i).1.block i = .plain "minecraft:pumpkin" := by
  obtain ⟨j, hj, hs⟩ := hs
  have hplan : pumpkin.plan v i = _ := planPumpkin_of_soil hj hn hs
  exact turn_of_write hplan rfl log

theorem pumpkin_turn_of_no_soil
    (h : (v.block i).name = "minecraft:carved_pumpkin" → ¬SoilBelow v.block i)
    (log : Array Event) : (pumpkin.stepReporting (v, log) i).1.block i = v.block i := by
  refine turn_of_no_write (fun e he => ?_) log
  obtain rfl | ⟨j, hj, hn, hs, -⟩ := cases_planPumpkin he
  · rfl
  · exact absurd ⟨j, hj, hs⟩ (h hn)

/-- An upper half takes the kind of the plant right below it. -/
theorem doublePlant_turn_of_plant (hu : (v.block i).property? "half" = some "upper")
    (hj : i.below? = some j) (hp : (v.block j).name ∈ doublePlants) (log : Array Event) :
    (doublePlant.stepReporting (v, log) i).1.block i =
      .ofPairs (v.block j).name [("half", "upper")] := by
  have hplan : doublePlant.plan v i = _ := planDoublePlant_of_plant hj hu hp
  exact turn_of_write hplan rfl log

theorem doublePlant_turn_of_pass
    (h : (v.block i).property? "half" = some "upper" →
      ∀ j, i.below? = some j → (v.block j).name ∉ doublePlants) (log : Array Event) :
    (doublePlant.stepReporting (v, log) i).1.block i = v.block i := by
  refine turn_of_no_write (fun e he => ?_) log
  obtain rfl | ⟨j, hj, hu, hp, -⟩ := cases_planDoublePlant he
  · rfl
  · exact absurd hp (h hu j hj)

/-! ### rules that follow a block entity -/

theorem turn_of_no_record (hr : r.isRecordDriven = true) (h : v.record? i = none)
    (log : Array Event) : (r.stepReporting (v, log) i).1.block i = v.block i := by
  refine turn_of_no_write (fun e he => ?_) log
  obtain ⟨t, ht, -⟩ := cases_of_recordDriven hr he
  rw [h] at ht
  cases ht

theorem turn_of_record (hr : r.isRecordDriven = true) {t : Tag} (h : v.record? i = some t)
    (log : Array Event) :
    (r.stepReporting (v, log) i).1.block i = (r.recordState? (v.block i) t).getD (v.block i) := by
  cases he : r.plan v i with
  | error u =>
    rw [record?_of_plan_error hr he] at h
    cases h
  | ok e =>
    obtain ⟨t', ht, hcases⟩ := cases_of_recordDriven hr he
    obtain rfl := Option.some.inj (ht.symm.trans h)
    obtain ⟨hnone, rfl⟩ | ⟨s, hs, rfl⟩ := hcases
    · rw [hnone, Option.getD_none]
      refine turn_of_no_write (fun e he' => ?_) log
      rw [← Except.ok.inj (he.symm.trans he')]
      rfl
    · rw [hs, Option.getD_some]
      exact turn_of_write he rfl log

end Rule

end Flattening
