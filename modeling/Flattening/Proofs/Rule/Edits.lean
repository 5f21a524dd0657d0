import Flattening.Rule.Plan

/-!
# What the edit of a rule can be

For each rule, everything that it can answer, with the guards under which it does.  What a rule
reads and writes is read off these lists of cases; no later proof opens a plan again.

* `cases_planSnowyGround`, `cases_planDoor`, `cases_planPumpkin`, `cases_planDoublePlant`
  the rules that look at a neighbour;
* `planSnowyGround_of_snow`, `planDoor_of_same`, `planPumpkin_of_soil`, `planDoublePlant_of_plant`
  and their edits under these guards;
* `cases_fromRecord`       the rules that follow a block entity;
* `name_recordState?`      the names that they give;
* `writes_of_plan`         a rule writes its own cell, or it is a door that writes the cell above
  as well.
-/

namespace Flattening.Rule

variable {v : View} {i : ColumnCell} {e : Edit}

/-! ## one rule at a time -/

theorem cases_planSnowyGround (h : planSnowyGround v i = .ok e) :
    e = .nothing ∨ ∃ j, i.above? = some j ∧
      (v.block i).name ∈ ["minecraft:grass_block", "minecraft:podzol", "minecraft:mycelium"] ∧
      (v.block j).name ∈ ["minecraft:snow", "minecraft:snow_block"] ∧
      e = .write i ((v.block i).withProperty "snowy" "true") := by
  unfold planSnowyGround at h
  simp only at h
  split at h
  · rename_i hg
    split at h
    · cases h
      exact .inl rfl
    · rename_i j hj
      split at h
      · rename_i hs
        cases h
        exact .inr ⟨j, hj, List.contains_iff_mem.1 hg, List.contains_iff_mem.1 hs, rfl⟩
      · cases h
        exact .inl rfl
  · cases h
    exact .inl rfl

theorem cases_planDoor (h : planDoor v i = .ok e) :
    e = .nothing ∨ ∃ j, i.above? = some j ∧ (v.block i).nameEndsWith "_door" = true ∧
      (v.block i).property? "half" = some "lower" ∧ (v.block j).name = (v.block i).name ∧
      e = ⟨false,
        [(i, doorHalf (v.block i).name ((v.block i).propertyD "facing" "east") "lower"
            (if v.fromAlpha then "left" else (v.block j).propertyD "hinge" "left")
            ((v.block i).propertyD "open" "false")
            (if v.fromAlpha then "false" else (v.block j).propertyD "powered" "false")),
         (j, doorHalf (v.block i).name ((v.block i).propertyD "facing" "east") "upper"
            (if v.fromAlpha then "left" else (v.block j).propertyD "hinge" "left")
            ((v.block i).propertyD "open" "false")
            (if v.fromAlpha then "false" else (v.block j).propertyD "powered" "false"))]⟩ := by
  unfold planDoor at h
  simp only at h
  split at h
  · rename_i hl
    rw [Bool.and_eq_true, beq_iff_eq] at hl
    split at h
    · cases h
    · rename_i j hj
      split at h
      · rename_i hn
        cases h
        exact .inr ⟨j, hj, hl.1, hl.2, hn, rfl⟩
      · cases h
  · cases h
    exact .inl rfl

theorem cases_planPumpkin (h : planPumpkin v i = .ok e) :
    e = .nothing ∨ ∃ j, i.below? = some j ∧ (v.block i).name = "minecraft:carved_pumpkin" ∧
      (v.block j).name ∈ ["minecraft:grass_block", "minecraft:dirt"] ∧
      e = .write i (.plain "minecraft:pumpkin") := by
  unfold planPumpkin at h
  split at h
  · rename_i hn
    split at h
    · cases h
      exact .inl rfl
    · rename_i j hj
      split at h
      · rename_i hs
        cases h
        exact .inr ⟨j, hj, hn, List.contains_iff_mem.1 hs, rfl⟩
      · cases h
        exact .inl rfl
  · cases h
    exact .inl rfl

theorem cases_planDoublePlant (h : planDoublePlant v i = .ok e) :
    e = .nothing ∨ ∃ j, i.below? = some j ∧ (v.block i).property? "half" = some "upper" ∧
      (v.block j).name ∈ doublePlants ∧
      e = .write i (.ofPairs (v.block j).name [("half", "upper")]) := by
  unfold planDoublePlant at h
  split at h
  · rename_i hu
    split at h
    · cases h
    · rename_i j hj
      simp only at h
      split at h
      · rename_i hp
        cases h
        exact .inr ⟨j, hj, beq_iff_eq.1 hu, List.contains_iff_mem.1 hp, rfl⟩
      · cases h
  · cases h
    exact .inl rfl

theorem cases_fromRecord {m : Unresolved} {f : BlockState → Tag → Option BlockState}
    (h : fromRecord m f v i = .ok e) :
    ∃ r, v.record? i = some r ∧
      ((f (v.block i) r = none ∧ e = .consume) ∨
        ∃ s, f (v.block i) r = some s ∧ e = .consumeAndWrite i s) := by
  unfold fromRecord at h
  split at h
  · cases h
  · rename_i r hr
    refine ⟨r, hr, ?_⟩
    split at h
    · rename_i hf
      cases h
      exact .inl ⟨hf, rfl⟩
    · rename_i s hf
      cases h
      exact .inr ⟨s, hf, rfl⟩

/-! ## edits that come under their guards -/

section
variable {j : ColumnCell}

theorem planSnowyGround_of_snow (hj : i.above? = some j)
    (hg : (v.block i).name ∈ ["minecraft:grass_block", "minecraft:podzol", "minecraft:mycelium"])
    (hs : (v.block j).name ∈ ["minecraft:snow", "minecraft:snow_block"]) :
    planSnowyGround v i = .ok (.write i ((v.block i).withProperty "snowy" "true")) := by
  rw [planSnowyGround]
  simp only [List.contains_iff_mem.2 hg, hj, List.contains_iff_mem.2 hs, if_true]

theorem planDoor_of_same (hj : i.above? = some j) (hd : (v.block i).nameEndsWith "_door" = true)
    (hl : (v.block i).property? "half" = some "lower") (hn : (v.block j).name = (v.block i).name) :
    planDoor v i = .ok ⟨false,
      [(i, doorHalf (v.block i).name ((v.block i).propertyD "facing" "east") "lower"
          (if v.fromAlpha then "left" else (v.block j).propertyD "hinge" "left")
          ((v.block i).propertyD "open" "false")
          (if v.fromAlpha then "false" else (v.block j).propertyD "powered" "false")),
       (j, doorHalf (v.block i).name ((v.block i).propertyD "facing" "east") "upper"
          (if v.fromAlpha then "left" else (v.block j).propertyD "hinge" "left")
          ((v.block i).propertyD "open" "false")
          (if v.fromAlpha then "false" else (v.block j).propertyD "powered" "false"))]⟩ := by
  rw [planDoor]
  simp only [hd, hl, beq_self_eq_true, Bool.and_self, if_true, hj, if_pos hn]

theorem planPumpkin_of_soil (hj : i.below? = some j)
    (hn : (v.block i).name = "minecraft:carved_pumpkin")
    (hs : (v.block j).name ∈ ["minecraft:grass_block", "minecraft:dirt"]) :
    planPumpkin v i = .ok (.write i (.plain "minecraft:pumpkin")) := by
  rw [planPumpkin]
  simp only [if_pos hn, hj, List.contains_iff_mem.2 hs, if_true]

theorem planDoublePlant_of_plant (hj : i.below? = some j)
    (hu : (v.block i).property? "half" = some "upper") (hp : (v.block j).name ∈ doublePlants) :
    planDoublePlant v i = .ok (.write i (.ofPairs (v.block j).name [("half", "upper")])) := by
  rw [planDoublePlant]
  simp only [hu, beq_self_eq_true, hj, List.contains_iff_mem.2 hp, if_true]

end

/-! ## all rules -/

/-- the states that a rule makes from the block entity in its cell -/
def recordState? : Rule → BlockState → Tag → Option BlockState
  | .noteBlock => fun s r => some (noteBlockState s r)
  | .bed => bedState?
  | .flowerPot => fun _ r => some (flowerPotState r)
  | .skull => fun s r => some (skullState s r)
  | .banner => bannerState?
  | _ => fun _ _ => none

theorem cases_of_recordDriven {r : Rule} (hr : r.isRecordDriven = true)
    (h : r.plan v i = .ok e) :
    ∃ t, v.record? i = some t ∧
      ((r.recordState? (v.block i) t = none ∧ e = .consume) ∨
        ∃ s, r.recordState? (v.block i) t = some s ∧ e = .consumeAndWrite i s) := by
  cases r with
  | noteBlock | bed | flowerPot | skull | banner => exact cases_fromRecord h
  | snowyGround | door | pumpkin | doublePlant => cases hr

/-! ## what a block entity makes of a cell -/

/-- the names of states that are made from block entities -/
def recordNames : List String :=
  "minecraft:note_block" :: "minecraft:flower_pot" :: (pottedPlants.map Prod.snd ++
    (dyeNames.toList.flatMap fun dye => ["minecraft:" ++ dye ++ "_bed",
      "minecraft:" ++ dye ++ "_wall_banner", "minecraft:" ++ dye ++ "_banner"]) ++
    skullKinds.flatMap fun k =>
      ["minecraft:" ++ k.1 ++ "_wall_" ++ k.2, "minecraft:" ++ k.1 ++ "_" ++ k.2])

theorem mem_dyeNames {n : Int} {dye : String} (h : dyeName? n = some dye) :
    dye ∈ dyeNames.toList := by
  unfold dyeName? at h
  split at h
  · obtain ⟨hn, rfl⟩ := Vector.getElem?_eq_some_iff.1 h
    exact Vector.mem_toList_iff.2 (Vector.getElem_mem hn)
  · cases h

theorem skullKind_mem (r : Tag) : skullKind r ∈ skullKinds := by
  unfold skullKind
  dsimp only
  cases h : (if 0 ≤ (recordInt? r "SkullType").getD 0 then
      skullKinds[((recordInt? r "SkullType").getD 0).toNat]? else none) with
  | none => exact List.mem_cons_self
  | some k =>
    split at h
    · exact List.mem_of_getElem? h
    · cases h

variable {s b : BlockState} {t : Tag}

/-- A bed keeps its properties. -/
theorem cases_bedState? (h : bedState? s t = some b) :
    ∃ dye ∈ dyeNames.toList, b = s.renamed ("minecraft:" ++ dye ++ "_bed") := by
  unfold bedState? at h
  dsimp only at h
  split at h
  · cases h
  · split at h
    · obtain ⟨dye, hd, rfl⟩ := Option.map_eq_some_iff.1 h
      exact ⟨dye, mem_dyeNames hd, rfl⟩
    · cases h

/-- A banner keeps its properties, and whether it hangs on a wall. -/
theorem cases_bannerState? (h : bannerState? s t = some b) :
    ∃ dye ∈ dyeNames.toList, b = s.renamed ("minecraft:" ++ dye ++ "_wall_banner") ∨
      b = s.renamed ("minecraft:" ++ dye ++ "_banner") := by
  unfold bannerState? at h
  dsimp only at h
  split at h
  · cases h
  · obtain ⟨dye, hd, rfl⟩ := Option.map_eq_some_iff.1 h
    refine ⟨dye, mem_dyeNames hd, ?_⟩
    split
    · exact .inl rfl
    · exact .inr rfl

theorem cases_flowerPotState (t : Tag) :
    ∃ n ∈ "minecraft:flower_pot" :: pottedPlants.map Prod.snd, flowerPotState t = .plain n := by
  unfold flowerPotState
  dsimp only
  cases hp : (potItem? t).bind fun item =>
      Entries.get? (item, (recordInt? t "Data").getD 0) pottedPlants with
  | none => exact ⟨_, List.mem_cons_self, rfl⟩
  | some p =>
    obtain ⟨item, -, hg⟩ := Option.bind_eq_some_iff.1 hp
    exact ⟨p, List.mem_cons_of_mem _ (List.mem_map_of_mem (Entries.mem_of_get? hg)), rfl⟩

theorem cases_skullState (s : BlockState) (t : Tag) : ∃ k ∈ skullKinds,
    skullState s t = .ofPairs ("minecraft:" ++ k.1 ++ "_wall_" ++ k.2)
        [("facing", s.propertyD "facing" "north")] ∨
      ∃ n < 16, skullState s t = .ofPairs ("minecraft:" ++ k.1 ++ "_" ++ k.2)
        [("rotation", toString n)] := by
  refine ⟨skullKind t, skullKind_mem t, ?_⟩
  unfold skullState
  dsimp only
  split
  · exact .inl rfl
  · exact .inr ⟨((recordInt? t "Rot").getD 0 % 16).toNat, by omega, rfl⟩

/-- A block entity gives a cell one of few names. -/
theorem name_recordState? {r : Rule} (h : r.recordState? s t = some b) : b.name ∈ recordNames := by
  have hdyed : ∀ dye ∈ dyeNames.toList, ∀ n ∈ ["minecraft:" ++ dye ++ "_bed",
      "minecraft:" ++ dye ++ "_wall_banner", "minecraft:" ++ dye ++ "_banner"],
      n ∈ recordNames := by
    intro dye hd n hn
    refine List.mem_cons_of_mem _ (List.mem_cons_of_mem _ ?_)
    exact List.mem_append_left _ (List.mem_append_right _ (List.mem_flatMap.2 ⟨dye, hd, hn⟩))
  have hheaded : ∀ k ∈ skullKinds, ∀ n ∈ ["minecraft:" ++ k.1 ++ "_wall_" ++ k.2,
      "minecraft:" ++ k.1 ++ "_" ++ k.2], n ∈ recordNames := by
    intro k hk n hn
    refine List.mem_cons_of_mem _ (List.mem_cons_of_mem _ ?_)
    exact List.mem_append_right _ (List.mem_flatMap.2 ⟨k, hk, hn⟩)
  cases r with
  | noteBlock =>
    cases h
    exact List.mem_cons_self
  | bed =>
    obtain ⟨dye, hd, rfl⟩ := cases_bedState? h
    exact hdyed dye hd _ (by simp [BlockState.name_renamed])
  | flowerPot =>
    cases h
    obtain ⟨n, hn, hs⟩ := cases_flowerPotState t
    rw [hs]
    refine List.mem_cons_of_mem _ ?_
    rcases List.mem_cons.1 hn with rfl | hn
    · exact List.mem_cons_self
    · exact List.mem_cons_of_mem _ (List.mem_append_left _ (List.mem_append_left _ hn))
  | skull =>
    cases h
    obtain ⟨k, hk, hs | ⟨n, -, hs⟩⟩ := cases_skullState s t
    · rw [hs]
      exact hheaded k hk _ List.mem_cons_self
    · rw [hs]
      exact hheaded k hk _ (List.mem_cons_of_mem _ List.mem_cons_self)
  | banner =>
    obtain ⟨dye, hd, rfl | rfl⟩ := cases_bannerState? h
    · exact hdyed dye hd _ (by simp [BlockState.name_renamed])
    · exact hdyed dye hd _ (by simp [BlockState.name_renamed])
  | snowyGround | door | pumpkin | doublePlant => cases h

/-! ## where a rule writes -/

/-- Only a door writes outside its own cell: its upper half, which has its name. -/
theorem writes_of_plan {r : Rule} (h : r.plan v i = .ok e) :
    e.writes = [] ∨ (∃ s, e.writes = [(i, s)]) ∨
      (r = .door ∧ ∃ j s t, i.above? = some j ∧ (v.block i).nameEndsWith "_door" = true ∧
        (v.block j).name = (v.block i).name ∧ e.writes = [(i, s), (j, t)]) := by
  cases r with
  | noteBlock | bed | flowerPot | skull | banner =>
    obtain ⟨t, -, ⟨-, rfl⟩ | ⟨s, -, rfl⟩⟩ := cases_of_recordDriven rfl h
    · exact .inl rfl
    · exact .inr (.inl ⟨s, rfl⟩)
  | snowyGround =>
    obtain rfl | ⟨j, -, -, -, rfl⟩ := cases_planSnowyGround h
    · exact .inl rfl
    · exact .inr (.inl ⟨_, rfl⟩)
  | pumpkin =>
    obtain rfl | ⟨j, -, -, -, rfl⟩ := cases_planPumpkin h
    · exact .inl rfl
    · exact .inr (.inl ⟨_, rfl⟩)
  | doublePlant =>
    obtain rfl | ⟨j, -, -, -, rfl⟩ := cases_planDoublePlant h
    · exact .inl rfl
    · exact .inr (.inl ⟨_, rfl⟩)
  | door =>
    obtain rfl | ⟨j, hj, hd, -, hn, rfl⟩ := cases_planDoor h
    · exact .inl rfl
    · exact .inr (.inr ⟨rfl, j, _, _, hj, hd, hn, rfl⟩)

theorem mem_writes_of_plan {r : Rule} (h : r.plan v i = .ok e) {w : ColumnCell × BlockState}
    (hw : w ∈ e.writes) :
    w.1 = i ∨ (r = .door ∧ i.above? = some w.1 ∧ (v.block i).nameEndsWith "_door" = true ∧
      (v.block w.1).name = (v.block i).name) := by
  obtain he | ⟨s, he⟩ | ⟨hr, j, s, t, hj, hd, hn, he⟩ := writes_of_plan h
  · rw [he] at hw
    cases hw
  · rw [he, List.mem_singleton] at hw
    exact .inl (by rw [hw])
  · rw [he] at hw
    rcases List.mem_cons.1 hw with rfl | hw
    · exact .inl rfl
    · rw [List.mem_singleton.1 hw]
      exact .inr ⟨hr, hj, hd, hn⟩

theorem length_writes_of_plan {r : Rule} (h : r.plan v i = .ok e) : e.writes.length ≤ 2 := by
  obtain he | ⟨s, he⟩ | ⟨-, j, s, t, -, -, -, he⟩ := writes_of_plan h
  · rw [he]; exact Nat.zero_le 2
  · rw [he]; exact Nat.le_succ 1
  · rw [he]; exact Nat.le_refl 2

end Flattening.Rule
