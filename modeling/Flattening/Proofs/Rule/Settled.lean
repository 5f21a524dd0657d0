import Flattening.Proofs.Rule.Doors
import Flattening.Proofs.Rule.Turns

/-!
# Running a rule a second time

A cell is settled when its rule finds everything as it would make it.  Its own turn settles a cell,
and the turns of cells above do not unsettle it, though they may write to what it looks at: ground
keeps its name, and a lower half that becomes part of another pair is not one that is settled.  So
a run from below leaves all its cells settled, and a second run over them changes nothing.

* `settled_snowyGround_iff`, `settled_door_iff`, `settled_pumpkin_iff`, `settled_doublePlant_iff`,
  `settled_iff_of_recordDriven`   what it is to be settled, rule by rule;
* `settled_turn`             a turn settles its cell;
* `settled_turn_above`       and a turn further up keeps it settled;
* `settled_apply`            a run from below settles all its cells;
* `FlatStore.run_idempotent`   and the second run keeps every state and every block entity.
-/

namespace Flattening

/-! ## edits that change nothing -/

/-- The edit takes nothing, and what it writes is there. -/
structure Edit.Idle (v : View) (e : Edit) : Prop where
  consumes : e.consumes = false
  writes : ∀ w ∈ e.writes, v.block w.1 = w.2

namespace Edit

variable {v : View} {i : ColumnCell}

theorem idle_nothing (v : View) : Edit.nothing.Idle v := ⟨rfl, fun _ hw => by cases hw⟩

theorem idle_write_iff {s : BlockState} : (Edit.write i s).Idle v ↔ v.block i = s :=
  ⟨fun h => h.writes (i, s) (List.mem_singleton_self _),
    fun h => ⟨rfl, fun w hw => by rw [List.mem_singleton.1 hw]; exact h⟩⟩

end Edit

namespace View

variable {v w : View} {i j : ColumnCell}

theorem writeAll_of_there {l : List (ColumnCell × BlockState)}
    (h : ∀ x ∈ l, v.block x.1 = x.2) : writeAll l v = v := by
  induction l with
  | nil => rfl
  | cons x l ih =>
    have hx : v.write x = v := by
      rw [write, ← h x List.mem_cons_self, Function.update_eq_self]
    show writeAll l (v.write x) = v
    rw [hx]
    exact ih fun y hy => h y (List.mem_cons_of_mem x hy)

theorem perform_of_idle {e : Edit} (h : e.Idle v) (i : ColumnCell) :
    CellStore.perform v i e = v := by
  rw [perform_eq, h.consumes]
  exact writeAll_of_there h.writes

/-- Two halves that are joined are joined to the same again. -/
theorem joinedHalf_of_joined (hi : w.block i = v.joinedHalf i j "lower")
    (hj : w.block j = v.joinedHalf i j "upper") (ha : w.fromAlpha = v.fromAlpha) (half : String) :
    w.joinedHalf i j half = v.joinedHalf i j half := by
  have hhalf : ∀ half' key default, (v.joinedHalf i j half').propertyD key default =
      (Entries.get? key (v.joinedHalf i j half').properties).getD default := fun _ _ _ => rfl
  have hname : (w.block i).name = (v.block i).name := by
    rw [hi]
    rfl
  have hfacing : (w.block i).propertyD "facing" "east" = (v.block i).propertyD "facing" "east" := by
    rw [hi, hhalf, joinedHalf, Rule.properties_doorHalf]
    rfl
  have hopen : (w.block i).propertyD "open" "false" = (v.block i).propertyD "open" "false" := by
    rw [hi, hhalf, joinedHalf, Rule.properties_doorHalf]
    rfl
  have hhinge : (w.block j).propertyD "hinge" "left" =
      if v.fromAlpha then "left" else (v.block j).propertyD "hinge" "left" := by
    rw [hj, hhalf, joinedHalf, Rule.properties_doorHalf]
    rfl
  have hpowered : (w.block j).propertyD "powered" "false" =
      if v.fromAlpha then "false" else (v.block j).propertyD "powered" "false" := by
    rw [hj, hhalf, joinedHalf, Rule.properties_doorHalf]
    rfl
  rw [joinedHalf, joinedHalf, hname, hfacing, hopen, hhinge, hpowered, ha]
  cases v.fromAlpha <;> rfl

end View

namespace Rule

variable {r : Rule} {v : View} {i k : ColumnCell} {cells : List ColumnCell}

/-- The rule would change nothing for the cell. -/
def Settled (r : Rule) (v : View) (i : ColumnCell) : Prop :=
  ∀ e, r.plan v i = .ok e → e.Idle v

theorem fst_stepReporting_of_settled (h : r.Settled v i) (log : Array Event) :
    (r.stepReporting (v, log) i).1 = v := by
  obtain ⟨e, he, hs⟩ | ⟨u, -, hs⟩ := r.stepReporting_cases (v, log) i
  · rw [hs]
    exact View.perform_of_idle (h e he) i
  · rw [hs]

theorem fst_apply_of_settled (h : ∀ i ∈ cells, r.Settled v i) (log : Array Event) :
    (r.apply cells v log).1 = v := by
  induction cells generalizing log with
  | nil => rfl
  | cons i cells ih =>
    rw [apply_cons, fst_stepReporting_of_settled (h i List.mem_cons_self)]
    exact ih (fun j hj => h j (List.mem_cons_of_mem i hj)) _

/-! ## rule by rule -/

theorem settled_snowyGround_iff : snowyGround.Settled v i ↔ ∀ j, i.above? = some j →
    (v.block i).name ∈ ["minecraft:grass_block", "minecraft:podzol", "minecraft:mycelium"] →
    (v.block j).name ∈ ["minecraft:snow", "minecraft:snow_block"] →
      v.block i = (v.block i).withProperty "snowy" "true" := by
  refine ⟨fun h j hj hg hs => Edit.idle_write_iff.1 (h _ (planSnowyGround_of_snow hj hg hs)),
    fun h e he => ?_⟩
  obtain rfl | ⟨j, hj, hg, hs, rfl⟩ := cases_planSnowyGround he
  · exact Edit.idle_nothing v
  · exact Edit.idle_write_iff.2 (h j hj hg hs)

theorem settled_pumpkin_iff : pumpkin.Settled v i ↔ ∀ j, i.below? = some j →
    (v.block i).name = "minecraft:carved_pumpkin" →
    (v.block j).name ∈ ["minecraft:grass_block", "minecraft:dirt"] →
      v.block i = .plain "minecraft:pumpkin" := by
  refine ⟨fun h j hj hn hs => Edit.idle_write_iff.1 (h _ (planPumpkin_of_soil hj hn hs)),
    fun h e he => ?_⟩
  obtain rfl | ⟨j, hj, hn, hs, rfl⟩ := cases_planPumpkin he
  · exact Edit.idle_nothing v
  · exact Edit.idle_write_iff.2 (h j hj hn hs)

theorem settled_doublePlant_iff : doublePlant.Settled v i ↔ ∀ j, i.below? = some j →
    (v.block i).property? "half" = some "upper" → (v.block j).name ∈ doublePlants →
      v.block i = .ofPairs (v.block j).name [("half", "upper")] := by
  refine ⟨fun h j hj hu hp => Edit.idle_write_iff.1 (h _ (planDoublePlant_of_plant hj hu hp)),
    fun h e he => ?_⟩
  obtain rfl | ⟨j, hj, hu, hp, rfl⟩ := cases_planDoublePlant he
  · exact Edit.idle_nothing v
  · exact Edit.idle_write_iff.2 (h j hj hu hp)

theorem settled_door_iff : door.Settled v i ↔ ∀ j, i.above? = some j →
    (v.block i).nameEndsWith "_door" = true → (v.block i).property? "half" = some "lower" →
    (v.block j).name = (v.block i).name →
      v.block i = v.joinedHalf i j "lower" ∧ v.block j = v.joinedHalf i j "upper" := by
  constructor
  · intro h j hj hd hl hn
    have hidle := h _ (planDoor_of_same hj hd hl hn)
    exact ⟨hidle.writes (i, v.joinedHalf i j "lower") List.mem_cons_self,
      hidle.writes (j, v.joinedHalf i j "upper") (List.mem_cons_of_mem _ List.mem_cons_self)⟩
  · intro h e he
    obtain rfl | ⟨j, hj, hd, hl, hn, rfl⟩ := cases_planDoor he
    · exact Edit.idle_nothing v
    · obtain ⟨hlower, hupper⟩ := h j hj hd hl hn
      refine ⟨rfl, fun w hw => ?_⟩
      rcases List.mem_cons.1 hw with rfl | hw
      · exact hlower
      · rw [List.mem_singleton.1 hw]
        exact hupper

/-- A rule that follows a block entity always takes it. -/
theorem settled_iff_of_recordDriven (hr : r.isRecordDriven = true) :
    r.Settled v i ↔ v.record? i = none := by
  constructor
  · intro h
    cases he : r.plan v i with
    | error u => exact record?_of_plan_error hr he
    | ok e =>
      have hkeeps := (h e he).consumes
      rw [consumes_of_plan he, hr] at hkeeps
      cases hkeeps
  · intro h e he
    obtain ⟨t, ht, -⟩ := cases_of_recordDriven hr he
    rw [h] at ht
    cases ht

/-! ## its own turn settles a cell -/

theorem settled_snowyGround_turn (v : View) (log : Array Event) (i : ColumnCell) :
    snowyGround.Settled (snowyGround.stepReporting (v, log) i).1 i := by
  refine settled_snowyGround_iff.2 fun j hj hg hs => ?_
  have hblock : (snowyGround.stepReporting (v, log) i).1.block j = v.block j :=
    block_stepReporting_ne (by decide) (Fin.ne_of_gt (ColumnCell.lt_of_above? hj)) v log
  rw [hblock] at hs
  by_cases hg' : (v.block i).name ∈
      ["minecraft:grass_block", "minecraft:podzol", "minecraft:mycelium"]
  · rw [snowyGround_turn_of_snow hg' ⟨j, hj, hs⟩, BlockState.withProperty_again]
  · rw [snowyGround_turn_of_no_snow fun h => absurd h hg'] at hg
    exact absurd hg hg'

theorem settled_pumpkin_turn (v : View) (log : Array Event) (i : ColumnCell) :
    pumpkin.Settled (pumpkin.stepReporting (v, log) i).1 i := by
  refine settled_pumpkin_iff.2 fun j hj hn hs => ?_
  have hji : j < i := ColumnCell.lt_of_above? (ColumnCell.above?_eq_some_iff.2 hj)
  have hblock : (pumpkin.stepReporting (v, log) i).1.block j = v.block j :=
    block_stepReporting_ne (by decide) (Fin.ne_of_lt hji) v log
  rw [hblock] at hs
  by_cases hn' : (v.block i).name = "minecraft:carved_pumpkin"
  · exact pumpkin_turn_of_soil hn' ⟨j, hj, hs⟩ log
  · rw [pumpkin_turn_of_no_soil fun h => absurd h hn'] at hn
    exact absurd hn hn'

theorem settled_doublePlant_turn (v : View) (log : Array Event) (i : ColumnCell) :
    doublePlant.Settled (doublePlant.stepReporting (v, log) i).1 i := by
  refine settled_doublePlant_iff.2 fun j hj hu hp => ?_
  have hji : j < i := ColumnCell.lt_of_above? (ColumnCell.above?_eq_some_iff.2 hj)
  have hblock : (doublePlant.stepReporting (v, log) i).1.block j = v.block j :=
    block_stepReporting_ne (by decide) (Fin.ne_of_lt hji) v log
  rw [hblock] at hp ⊢
  by_cases hu' : (v.block i).property? "half" = some "upper"
  · exact doublePlant_turn_of_plant hu' hj hp log
  · rw [doublePlant_turn_of_pass fun h => absurd h hu'] at hu
    exact absurd hu hu'

theorem settled_door_turn (v : View) (log : Array Event) (i : ColumnCell) :
    door.Settled (door.stepReporting (v, log) i).1 i := by
  by_cases hjoins : ∃ j, i.above? = some j ∧ (v.block i).nameEndsWith "_door" = true ∧
      (v.block i).property? "half" = some "lower" ∧ (v.block j).name = (v.block i).name
  · obtain ⟨j, hj, hd, hl, hn⟩ := hjoins
    obtain ⟨hlower, hupper, -⟩ := View.block_perform_pair
      (Fin.ne_of_lt (ColumnCell.lt_of_above? hj)) v (v.joinedHalf i j "lower")
      (v.joinedHalf i j "upper")
    rw [door_turn_of_same hd hl hj hn]
    refine settled_door_iff.2 fun j' hj' _ _ _ => ?_
    obtain rfl := Option.some.inj (hj.symm.trans hj')
    have hagain := View.joinedHalf_of_joined hlower hupper (View.fromAlpha_perform ..)
    rw [hagain, hagain]
    exact ⟨hlower, hupper⟩
  · rw [door_turn_of_pass fun hd hl j hj hn => hjoins ⟨j, hj, hd, hl, hn⟩]
    exact settled_door_iff.2 fun j hj hd hl hn => absurd ⟨j, hj, hd, hl, hn⟩ hjoins

/-- **A turn settles its cell.** -/
theorem settled_turn (r : Rule) (v : View) (log : Array Event) (i : ColumnCell) :
    r.Settled (r.stepReporting (v, log) i).1 i := by
  cases r with
  | snowyGround => exact settled_snowyGround_turn v log i
  | door => exact settled_door_turn v log i
  | pumpkin => exact settled_pumpkin_turn v log i
  | doublePlant => exact settled_doublePlant_turn v log i
  | noteBlock | bed | flowerPot | skull | banner =>
    refine (settled_iff_of_recordDriven rfl).2 ?_
    rw [record?_stepReporting, if_pos ⟨rfl, rfl⟩]

/-! ## and it stays settled -/

/-- Ground keeps its name. -/
theorem name_snowyGround_turn (v : View) (log : Array Event) (i j : ColumnCell) :
    ((snowyGround.stepReporting (v, log) i).1.block j).name = (v.block j).name := by
  by_cases hji : j = i
  · subst hji
    by_cases h : (v.block j).name ∈
        ["minecraft:grass_block", "minecraft:podzol", "minecraft:mycelium"] ∧ SnowAbove v.block j
    · rw [snowyGround_turn_of_snow h.1 h.2, BlockState.name_withProperty]
    · rw [snowyGround_turn_of_no_snow fun hg hs => h ⟨hg, hs⟩]
  · rw [block_stepReporting_ne (by decide) hji]

/-- A turn that joins a pair leaves a settled cell below alone: its own upper half cannot be the
lower one of the pair. -/
theorem settled_door_turn_above (h : door.Settled v k) (hki : k < i) (log : Array Event) :
    door.Settled (door.stepReporting (v, log) i).1 k := by
  by_cases hjoins : ∃ j, i.above? = some j ∧ (v.block i).nameEndsWith "_door" = true ∧
      (v.block i).property? "half" = some "lower" ∧ (v.block j).name = (v.block i).name
  · obtain ⟨j, hj, hd, hl, hn⟩ := hjoins
    have hij : i < j := ColumnCell.lt_of_above? hj
    obtain ⟨hlower, -, hother⟩ := View.block_perform_pair (Fin.ne_of_lt hij) v
      (v.joinedHalf i j "lower") (v.joinedHalf i j "upper")
    rw [door_turn_of_same hd hl hj hn]
    have hk := hother k (Fin.ne_of_lt hki) (Fin.ne_of_lt (Fin.lt_trans hki hij))
    refine settled_door_iff.2 fun m hm hkd hkl hkn => ?_
    by_cases hmi : m = i
    · -- the cell above is the lower half of the turn, so it was no upper half before
      subst hmi
      rw [hk] at hkd hkl hkn
      rw [hlower] at hkn
      have hupper := (settled_door_iff.1 h m hm hkd hkl hkn).2
      rw [hupper, View.property?_half_joinedHalf] at hl
      exact absurd hl (by decide)
    · have hmj : m ≠ j := fun hmj => absurd (ColumnCell.above?_inj (hmj ▸ hm) hj) (Fin.ne_of_lt hki)
      have hm' := hother m hmi hmj
      rw [hk] at hkd hkl hkn
      rw [hm'] at hkn
      have hsame := View.joinedHalf_congr hk hm'
        (View.fromAlpha_perform v i ⟨false, [(i, v.joinedHalf i j "lower"),
          (j, v.joinedHalf i j "upper")]⟩)
      rw [hk, hm', hsame, hsame]
      exact settled_door_iff.1 h m hm hkd hkl hkn
  · rw [door_turn_of_pass fun hd hl j hj hn => hjoins ⟨j, hj, hd, hl, hn⟩]
    exact h

/-- **A turn keeps the cells below settled.** -/
theorem settled_turn_above (h : r.Settled v k) (hki : k < i) (log : Array Event) :
    r.Settled (r.stepReporting (v, log) i).1 k := by
  have hne : k ≠ i := Fin.ne_of_lt hki
  have hbelow : ∀ j, k.below? = some j → j ≠ i := fun j hj =>
    Fin.ne_of_lt (Fin.lt_trans (ColumnCell.lt_of_above? (ColumnCell.above?_eq_some_iff.2 hj)) hki)
  cases r with
  | snowyGround =>
    refine settled_snowyGround_iff.2 fun j hj hg hs => ?_
    rw [name_snowyGround_turn] at hg hs
    rw [block_stepReporting_ne (by decide) hne]
    exact settled_snowyGround_iff.1 h j hj hg hs
  | door => exact settled_door_turn_above h hki log
  | pumpkin =>
    refine settled_pumpkin_iff.2 fun j hj hn hs => ?_
    rw [block_stepReporting_ne (by decide) hne] at hn ⊢
    rw [block_stepReporting_ne (by decide) (hbelow j hj)] at hs
    exact settled_pumpkin_iff.1 h j hj hn hs
  | doublePlant =>
    refine settled_doublePlant_iff.2 fun j hj hu hp => ?_
    rw [block_stepReporting_ne (by decide) hne] at hu ⊢
    rw [block_stepReporting_ne (by decide) (hbelow j hj)] at hp ⊢
    exact settled_doublePlant_iff.1 h j hj hu hp
  | noteBlock | bed | flowerPot | skull | banner =>
    refine (settled_iff_of_recordDriven rfl).2 ?_
    rw [record?_stepReporting, if_neg fun hk => hne hk.2]
    exact (settled_iff_of_recordDriven rfl).1 h

/-! ## runs -/

/-- What is settled below all cells of a run is settled afterwards, and so are those cells. -/
theorem settled_apply (hsorted : cells.Pairwise fun i j => i < j) (log : Array Event)
    (hk : k ∈ cells ∨ (r.Settled v k ∧ ∀ i ∈ cells, k < i)) :
    r.Settled (r.apply cells v log).1 k := by
  induction cells generalizing v log with
  | nil =>
    obtain hk | ⟨h, -⟩ := hk
    · cases hk
    · exact h
  | cons i cells ih =>
    obtain ⟨hi, hsorted⟩ := List.pairwise_cons.1 hsorted
    rw [apply_cons]
    refine ih hsorted _ ?_
    obtain hk | ⟨h, hlt⟩ := hk
    · rcases List.mem_cons.1 hk with rfl | hk
      · exact .inr ⟨settled_turn r v log k, hi⟩
      · exact .inl hk
    · exact .inr ⟨settled_turn_above h (hlt i List.mem_cons_self) log,
        fun j hj => hlt j (List.mem_cons_of_mem i hj)⟩

theorem fst_apply_again (hsorted : cells.Pairwise fun i j => i < j) (r : Rule) (v : View)
    (log log' : Array Event) :
    (r.apply cells (r.apply cells v log).1 log').1 = (r.apply cells v log).1 :=
  fst_apply_of_settled (fun _ hi => settled_apply hsorted log (.inl hi)) log'

end Rule

namespace FlatStore

/-- **A rule that has run over its cells from below changes nothing when it runs again.** -/
theorem run_idempotent {cells : List ColumnCell} (hsorted : cells.Pairwise fun i j => i < j)
    (r : Rule) (s : FlatStore) (log log' : Array Event) (i : ColumnCell) :
    CellStore.block (r.apply cells (r.apply cells s log).1 log').1 i =
        CellStore.block (r.apply cells s log).1 i ∧
      CellStore.record? (r.apply cells (r.apply cells s log).1 log').1 i =
        CellStore.record? (r.apply cells s log).1 i := by
  have hview : CellStore.view (r.apply cells (r.apply cells s log).1 log').1 =
      CellStore.view (r.apply cells s log).1 := by
    rw [view_apply, view_apply, Rule.fst_apply_again hsorted]
  exact ⟨congrArg (fun v => View.block v i) hview, congrArg (fun v => View.record? v i) hview⟩

/-- three lower halves of a door on each other -/
def lowerHalves : FlatStore :=
  ⟨[(.ofParts 0 0, .ofPairs "minecraft:oak_door" [("facing", "north"), ("half", "lower")]),
    (.ofParts 0 256, .ofPairs "minecraft:oak_door" [("facing", "south"), ("half", "lower")]),
    (.ofParts 0 512, .ofPairs "minecraft:oak_door" [("facing", "west"), ("half", "lower")])],
    [], false⟩

/-- The first run joins two of them; the second would join the other two, were the middle one not
an upper half by then. -/
theorem run_idempotent_lowerHalves :
    CellStore.block lowerHalves 256 ≠
        CellStore.block (Rule.door.apply [0, 256, 512] lowerHalves #[]).1 256 ∧
      CellStore.block (Rule.door.apply [0, 256, 512]
          (Rule.door.apply [0, 256, 512] lowerHalves #[]).1 #[]).1 256 =
        CellStore.block (Rule.door.apply [0, 256, 512] lowerHalves #[]).1 256 := by
  have hsorted : ([0, 256, 512] : List ColumnCell).Pairwise fun i j => i < j := by decide
  exact ⟨by decide +kernel, (run_idempotent hsorted .door lowerHalves #[] #[] 256).1⟩

/-- two upper halves over a sunflower -/
def upperHalves : FlatStore :=
  ⟨[(.ofParts 0 0, .plain "minecraft:sunflower"),
    (.ofParts 0 256, .ofPairs "minecraft:lever" [("half", "upper")]),
    (.ofParts 0 512, .ofPairs "minecraft:lever" [("half", "upper")])], [], false⟩

/-- A run from above leaves a cell that the next run settles. -/
example : CellStore.block (Rule.doublePlant.apply [512, 256]
      (Rule.doublePlant.apply [512, 256] upperHalves #[]).1 #[]).1 512 ≠
    CellStore.block (Rule.doublePlant.apply [512, 256] upperHalves #[]).1 512 := by
  decide +kernel

end FlatStore

end Flattening
