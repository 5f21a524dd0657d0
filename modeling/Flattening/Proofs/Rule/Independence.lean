import Flattening.Proofs.Legacy.Names
import Flattening.Proofs.Rule.Run
import Flattening.Proofs.Rule.Views

/-!
# The groups of different block ids do not depend on each other

Fix the block id of each cell and the class in which its neighbours see it.  No rule changes a
class, and all else that a rule reads lies in cells of its own block id.  So on the cells of
one block id a run does what the groups of that block id do alone.

* `Agree`                 two views that are the same on the cells of one block id;
* `Agree.plan_eq`         a rule does the same in both;
* `Agree.step_both`, `Agree.step_left`   and keeps them so, as does any step on other cells;
* `Agree.runGroups_filter`   a run is the same as the run of the groups of one block id.
-/

namespace Flattening

/-- the block id of each cell, none where there is nothing, and the class that others see -/
structure Layout where
  ids : ColumnCell → Option Nat
  sight : ColumnCell → Sight
  known : ∀ i b x, ids i = some b → Entries.get? b Legacy.knownSights = some x → sight i = x
  plant : ∀ i, sight i = .plant → ids i = some 175
  door : ∀ i n, sight i = .door n → ∃ b, ids i = some b ∧ (b, n) ∈ doorNames

namespace Layout

def Shows (L : Layout) (v : View) : Prop := ∀ i, (v.block i).sight = L.sight i

end Layout

namespace Rule

theorem mem_blocks_of_ofBlock? {b : Nat} {r : Rule} (h : ofBlock? b = some r) : b ∈ r.blocks := by
  have h' := List.find?_some h
  exact List.contains_iff_mem.1 h'

theorem known_of_plant : ∀ b ∈ doublePlant.blocks,
    Entries.get? b Legacy.knownSights = some .plant := by decide +kernel

theorem known_of_other {r : Rule} (hr : r.isRecordDriven = true ∨ r = .pumpkin) :
    ∀ b ∈ r.blocks, Entries.get? b Legacy.knownSights = some .other := by
  have hall : ∀ r ∈ all, r.isRecordDriven = true ∨ r = .pumpkin →
      ∀ b ∈ r.blocks, Entries.get? b Legacy.knownSights = some .other := by decide +kernel
  exact hall r r.mem_all hr

theorem known_of_door : ∀ b ∈ door.blocks, ∃ d ∈ doorNames, d.1 = b ∧
    Entries.get? b Legacy.knownSights = some (.door d.2) := by decide +kernel

end Rule

section
variable {L : Layout} {v : View} {b : Nat} {r : Rule} {i : ColumnCell}

/-! ## one step -/

namespace Layout

/-- The other half of a door has the block id of the door. -/
theorem ids_of_same_door (hv : L.Shows v) (hi : L.ids i = some b) (hb : b ∈ Rule.door.blocks)
    {j : ColumnCell} (hn : (v.block j).name = (v.block i).name) : L.ids j = some b := by
  obtain ⟨d, hd, rfl, hk⟩ := Rule.known_of_door b hb
  have hsi : L.sight i = .door d.2 := L.known i d.1 _ hi hk
  have hsj : L.sight j = .door d.2 := by
    rw [← hv j, BlockState.sight, hn, ← hsi, ← hv i, BlockState.sight]
  obtain ⟨b', hj, hb'⟩ := L.door j d.2 hsj
  have he := doorNames_inj (b', d.2) hb' d hd rfl
  rw [hj, ← he]

/-- All that a step writes lies in cells of one block id. -/
theorem ids_of_write (hv : L.Shows v) (hi : L.ids i = some b) (hr : Rule.ofBlock? b = some r)
    {e : Edit} (he : r.plan v i = .ok e) : ∀ w ∈ e.writes, L.ids w.1 = some b := by
  intro w hw
  obtain hwi | ⟨rfl, -, -, hn⟩ := Rule.mem_writes_of_plan he hw
  · rw [hwi, hi]
  · exact ids_of_same_door hv hi (Rule.mem_blocks_of_ofBlock? hr) hn

theorem shows_perform (hv : L.Shows v) (hi : L.ids i = some b) (hr : Rule.ofBlock? b = some r)
    {e : Edit} (he : r.plan v i = .ok e) : L.Shows (CellStore.perform v i e) := by
  have hb := Rule.mem_blocks_of_ofBlock? hr
  have hw := Rule.sight_of_write he
    (fun hp => by
      subst hp
      rw [hv i]
      exact L.known i b _ hi (Rule.known_of_plant b hb))
    (fun ho => by
      rw [hv i]
      exact L.known i b _ hi (Rule.known_of_other ho b hb))
  intro j
  exact View.forall_block_perform (P := fun j s => s.sight = L.sight j)
    (fun w hw' => (hw w hw').trans (hv w.1)) hv i j

theorem shows_step (hv : L.Shows v) (hi : L.ids i = some b) (hr : Rule.ofBlock? b = some r)
    (log : Array Event) : L.Shows (r.stepReporting (v, log) i).1 := by
  obtain ⟨e, he, hs⟩ | ⟨u, -, hs⟩ := r.stepReporting_cases (v, log) i
  · rw [hs]
    exact shows_perform hv hi hr he
  · rw [hs]
    exact hv

end Layout

end

/-- two views that show the layout and are the same on the cells of one block id -/
structure Agree (L : Layout) (k : Option Nat) (v w : View) : Prop where
  left : L.Shows v
  right : L.Shows w
  fromAlpha : v.fromAlpha = w.fromAlpha
  block : ∀ i, L.ids i = k → v.block i = w.block i
  record : ∀ i, L.ids i = k → v.record? i = w.record? i

namespace Agree

variable {L : Layout} {v w : View} {k : Option Nat} {b : Nat} {r : Rule} {i : ColumnCell}

theorem refl (h : L.Shows v) (k : Option Nat) : Agree L k v v :=
  ⟨h, h, rfl, fun _ _ => rfl, fun _ _ => rfl⟩

theorem sight_eq (h : Agree L k v w) (j : ColumnCell) : (v.block j).sight = (w.block j).sight :=
  (h.left j).trans (h.right j).symm

/-- A cell of another block id is no double plant, in neither view. -/
theorem planDoublePlant_eq (h : Agree L (some b) v w) (hi : L.ids i = some b)
    (hb : b ∈ Rule.doublePlant.blocks) : Rule.planDoublePlant v i = Rule.planDoublePlant w i := by
  rw [Rule.planDoublePlant, Rule.planDoublePlant, h.block i hi]
  cases i.below? with
  | none => rfl
  | some j =>
    have hj : Rule.doublePlants.contains (v.block j).name =
        Rule.doublePlants.contains (w.block j).name :=
      Sight.contains_name_eq Sight.ofName_eq_plant_iff (h.sight_eq j)
    by_cases hid : L.ids j = some b
    · simp only [h.block j hid]
    · have hno : ¬ (w.block j).name ∈ Rule.doublePlants := by
        intro hp
        have hs := L.plant j ((h.right j).symm.trans (Sight.ofName_eq_plant_iff.2 hp))
        have hb175 : b = 175 := List.mem_singleton.1 hb
        exact hid (hs.trans (congrArg some hb175.symm))
      have hc : Rule.doublePlants.contains (w.block j).name = false := by
        rw [Bool.eq_false_iff, Ne, List.contains_iff_mem]
        exact hno
      rw [hc] at hj
      simp only [hj, hc]
      rfl

/-- A cell of another block id is no half of the same door, in neither view. -/
theorem planDoor_eq (h : Agree L (some b) v w) (hi : L.ids i = some b)
    (hb : b ∈ Rule.door.blocks) : Rule.planDoor v i = Rule.planDoor w i := by
  have hown := h.block i hi
  rw [Rule.planDoor, Rule.planDoor, hown, h.fromAlpha]
  cases i.above? with
  | none => rfl
  | some j =>
    by_cases hid : L.ids j = some b
    · simp only [h.block j hid]
    · have hv : (v.block j).name ≠ (w.block i).name := by
        intro hn
        rw [← hown] at hn
        exact hid (Layout.ids_of_same_door h.left hi hb hn)
      have hw : (w.block j).name ≠ (w.block i).name := fun hn =>
        hid (Layout.ids_of_same_door h.right hi hb hn)
      simp only [if_neg hv, if_neg hw]

/-- **A rule does the same in two views** that agree on the cells of its block id: of all other
cells it sees the class. -/
theorem plan_eq (h : Agree L (some b) v w) (hi : L.ids i = some b)
    (hr : Rule.ofBlock? b = some r) : r.plan v i = r.plan w i := by
  have hb := Rule.mem_blocks_of_ofBlock? hr
  have hown := h.block i hi
  cases r with
  | noteBlock | bed | flowerPot | skull | banner =>
    simp only [Rule.plan, Rule.fromRecord, hown, h.record i hi]
  | snowyGround =>
    show Rule.planSnowyGround v i = Rule.planSnowyGround w i
    rw [Rule.planSnowyGround, Rule.planSnowyGround, hown]
    cases i.above? with
    | none => rfl
    | some j =>
      have hj : snowNames.contains (v.block j).name = snowNames.contains (w.block j).name :=
        Sight.contains_name_eq Sight.ofName_eq_snow_iff (h.sight_eq j)
      rw [snowNames] at hj
      simp only [hj]
  | pumpkin =>
    show Rule.planPumpkin v i = Rule.planPumpkin w i
    rw [Rule.planPumpkin, Rule.planPumpkin, hown]
    cases i.below? with
    | none => rfl
    | some j =>
      have hj : soilNames.contains (v.block j).name = soilNames.contains (w.block j).name :=
        Sight.contains_name_eq Sight.ofName_eq_soil_iff (h.sight_eq j)
      rw [soilNames] at hj
      simp only [hj]
  | doublePlant => exact h.planDoublePlant_eq hi hb
  | door => exact h.planDoor_eq hi hb

/-- A step on a cell of the block id keeps the views the same. -/
theorem step_both (h : Agree L (some b) v w) (hi : L.ids i = some b)
    (hr : Rule.ofBlock? b = some r) (log log' : Array Event) :
    Agree L (some b) (r.stepReporting (v, log) i).1 (r.stepReporting (w, log') i).1 := by
  have hplan := h.plan_eq hi hr
  obtain ⟨e, he, hs⟩ | ⟨u, hu, hs⟩ := r.stepReporting_cases (v, log) i
  · obtain ⟨e', he', hs'⟩ | ⟨u, hu, -⟩ := r.stepReporting_cases (w, log') i
    · obtain rfl : e = e' := Except.ok.inj (he.symm.trans (hplan.trans he'))
      refine ⟨L.shows_step h.left hi hr log, L.shows_step h.right hi hr log', ?_, ?_, ?_⟩
      · rw [hs, hs', View.fromAlpha_perform, View.fromAlpha_perform]
        exact h.fromAlpha
      · intro j hj
        rw [hs, hs']
        exact View.block_perform_congr (h.block j hj) i e
      · intro j hj
        rw [hs, hs']
        exact View.record?_perform_congr (h.record j hj) i e
    · exact absurd (he.symm.trans (hplan.trans hu)) (by simp)
  · obtain ⟨e', he', -⟩ | ⟨u', -, hs'⟩ := r.stepReporting_cases (w, log') i
    · exact absurd (hu.symm.trans (hplan.trans he')) (by simp)
    · rw [hs, hs']
      exact h

/-- So does a step in the first view alone, on a cell of another block id. -/
theorem step_left (h : Agree L k v w) (hi : L.ids i = some b) (hk : some b ≠ k)
    (hr : Rule.ofBlock? b = some r) (log : Array Event) :
    Agree L k (r.stepReporting (v, log) i).1 w := by
  obtain ⟨e, he, hs⟩ | ⟨u, -, hs⟩ := r.stepReporting_cases (v, log) i
  · have hw := L.ids_of_write h.left hi hr he
    refine ⟨L.shows_step h.left hi hr log, h.right, ?_, ?_, ?_⟩
    · rw [hs, View.fromAlpha_perform]
      exact h.fromAlpha
    · intro j hj
      rw [hs, View.block_perform_of_notMem]
      · exact h.block j hj
      · rintro w' hw' rfl
        exact hk ((hw w' hw').symm.trans hj)
    · intro j hj
      rw [hs, View.record?_perform_ne]
      · exact h.record j hj
      · rintro rfl
        exact hk (hi.symm.trans hj)
  · rw [hs]
    exact h

/-! ## runs -/

theorem apply_both (h : Agree L (some b) v w) (hr : Rule.ofBlock? b = some r)
    {cells : List ColumnCell} (hc : ∀ i ∈ cells, L.ids i = some b) (log log' : Array Event) :
    Agree L (some b) (r.apply cells v log).1 (r.apply cells w log').1 := by
  induction cells generalizing v w log log' with
  | nil => exact h
  | cons i cells ih =>
    rw [Rule.apply_cons, Rule.apply_cons]
    exact ih (h.step_both (hc i List.mem_cons_self) hr log log')
      (fun j hj => hc j (List.mem_cons_of_mem i hj)) _ _

theorem apply_left (h : Agree L k v w) (hk : some b ≠ k)
    (hr : Rule.ofBlock? b = some r) {cells : List ColumnCell}
    (hc : ∀ i ∈ cells, L.ids i = some b) (log : Array Event) :
    Agree L k (r.apply cells v log).1 w := by
  induction cells generalizing v log with
  | nil => exact h
  | cons i cells ih =>
    rw [Rule.apply_cons]
    exact ih (h.step_left (hc i List.mem_cons_self) hk hr log)
      (fun j hj => hc j (List.mem_cons_of_mem i hj)) _

/-- **On the cells of one block id a run does what the groups of that block id do alone.** -/
theorem runGroups_filter (h : Agree L k v w) {gs : List Chunk.Group}
    (hg : ∀ g ∈ gs, ∀ i ∈ g.columnCells, L.ids i = some g.block) (log log' : Array Event) :
    Agree L k (Chunk.runGroups gs v log).1
      (Chunk.runGroups (gs.filter fun g => some g.block = k) w log').1 := by
  induction gs generalizing v w log log' with
  | nil => exact h
  | cons g gs ih =>
    have hc := hg g List.mem_cons_self
    have hgs : ∀ g ∈ gs, ∀ i ∈ g.columnCells, L.ids i = some g.block := fun g' hg' =>
      hg g' (List.mem_cons_of_mem g hg')
    rw [Chunk.runGroups_cons]
    by_cases hk : some g.block = k
    · rw [List.filter_cons_of_pos (by simpa using hk), Chunk.runGroups_cons]
      refine ih ?_ hgs _ _
      subst hk
      cases hr : Rule.ofBlock? g.block with
      | none =>
        rw [Chunk.runGroup_of_no_rule hr, Chunk.runGroup_of_no_rule hr]
        exact h
      | some r =>
        rw [Chunk.runGroup_of_rule hr, Chunk.runGroup_of_rule hr]
        exact h.apply_both hr hc log log'
    · rw [List.filter_cons_of_neg (by simpa using hk)]
      refine ih ?_ hgs _ _
      cases hr : Rule.ofBlock? g.block with
      | none =>
        rw [Chunk.runGroup_of_no_rule hr]
        exact h
      | some r =>
        rw [Chunk.runGroup_of_rule hr]
        exact h.apply_left hk hr hc log

end Agree

end Flattening
