import Flattening.Proofs.Rule.Edits

/-!
# What a rule sees of its neighbours

Of a neighbouring cell a rule only ever asks the name, and only for snow, for soil, for a
double plant or for the other half of its own door.  So names fall into few classes, and every
rule leaves the class of each cell as it is.

* `covers_ofName`, `ofName_eq_door_iff`   the classes by their names;
* `sight_recordState?`   what a block entity makes of a cell is in the last class;
* `sight_of_write`       what is written to a cell is in the class of what was there.
-/

namespace Flattening

/-- the door of each block id that has the rule of doors -/
def doorNames : List (Nat × String) :=
  [(64, "minecraft:oak_door"), (71, "minecraft:iron_door"), (193, "minecraft:spruce_door"),
   (194, "minecraft:birch_door"), (195, "minecraft:jungle_door"), (196, "minecraft:acacia_door"),
   (197, "minecraft:dark_oak_door")]

def snowNames : List String := ["minecraft:snow", "minecraft:snow_block"]

def soilNames : List String := ["minecraft:grass_block", "minecraft:dirt"]

/-- what a rule can tell of a neighbour -/
inductive Sight where
  | snow | soil | plant
  | door (name : String)
  | other
  deriving DecidableEq

def Sight.ofName (name : String) : Sight :=
  if name ∈ snowNames then .snow
  else if name ∈ soilNames then .soil
  else if name ∈ Rule.doublePlants then .plant
  else if name ∈ doorNames.map Prod.snd then .door name
  else .other

def BlockState.sight (s : BlockState) : Sight := .ofName s.name

/-! ## the classes by their names -/

namespace Sight

/-- the names of a class; every name may be among the others -/
def Covers : Sight → String → Prop
  | .snow, name => name ∈ snowNames
  | .soil, name => name ∈ soilNames
  | .plant, name => name ∈ Rule.doublePlants
  | .door d, name => name = d ∧ d ∈ doorNames.map Prod.snd
  | .other, _ => True

theorem covers_ofName (name : String) : (ofName name).Covers name := by
  unfold ofName
  split
  · assumption
  · split
    · assumption
    · split
      · assumption
      · split
        · rename_i h
          exact ⟨rfl, h⟩
        · trivial

theorem ofName_of_snow : ∀ n ∈ snowNames, ofName n = .snow := by decide +kernel

theorem ofName_of_soil : ∀ n ∈ soilNames, ofName n = .soil := by decide +kernel

theorem ofName_of_plant : ∀ n ∈ Rule.doublePlants, ofName n = .plant := by decide +kernel

theorem ofName_of_door : ∀ d ∈ doorNames, ofName d.2 = .door d.2 := by decide +kernel

variable {name : String}

theorem ofName_eq_snow_iff : ofName name = .snow ↔ name ∈ snowNames := by
  refine ⟨fun h => ?_, ofName_of_snow name⟩
  have hc := covers_ofName name
  rwa [h] at hc

theorem ofName_eq_soil_iff : ofName name = .soil ↔ name ∈ soilNames := by
  refine ⟨fun h => ?_, ofName_of_soil name⟩
  have hc := covers_ofName name
  rwa [h] at hc

theorem ofName_eq_plant_iff : ofName name = .plant ↔ name ∈ Rule.doublePlants := by
  refine ⟨fun h => ?_, ofName_of_plant name⟩
  have hc := covers_ofName name
  rwa [h] at hc

theorem ofName_eq_door_iff {d : String} :
    ofName name = .door d ↔ name = d ∧ d ∈ doorNames.map Prod.snd := by
  constructor
  · intro h
    have hc := covers_ofName name
    rwa [h] at hc
  · rintro ⟨rfl, h⟩
    obtain ⟨d, hd, rfl⟩ := List.mem_map.1 h
    exact ofName_of_door d hd

/-- Asking for the names of a class gives the same answer on states of one class. -/
theorem contains_name_eq {l : List String} {x : Sight} (hl : ∀ {n}, Sight.ofName n = x ↔ n ∈ l)
    {s t : BlockState} (h : s.sight = t.sight) : l.contains s.name = l.contains t.name := by
  rw [Bool.eq_iff_iff, List.contains_iff_mem, List.contains_iff_mem, ← hl, ← hl]
  show s.sight = x ↔ t.sight = x
  rw [h]

end Sight

/-- A door has one block id. -/
theorem doorNames_inj : ∀ d ∈ doorNames, ∀ d' ∈ doorNames, d.2 = d'.2 → d = d' := by
  decide +kernel

/-! ## what is written -/

namespace Rule

theorem sight_recordNames : ∀ n ∈ recordNames, Sight.ofName n = .other := by decide +kernel

/-- What a block entity makes of a cell is no neighbour that a rule asks for. -/
theorem sight_recordState? {r : Rule} {s b : BlockState} {t : Tag}
    (h : r.recordState? s t = some b) : b.sight = .other :=
  sight_recordNames b.name (name_recordState? h)

/-- **A rule leaves what its neighbours see.**  For pumpkins, double plants and the rules that
follow a block entity this takes the class that the cells of the rule have. -/
theorem sight_of_write {r : Rule} {v : View} {i : ColumnCell} {e : Edit} (h : r.plan v i = .ok e)
    (hplant : r = .doublePlant → (v.block i).sight = .plant)
    (hother : r.isRecordDriven = true ∨ r = .pumpkin → (v.block i).sight = .other) :
    ∀ w ∈ e.writes, w.2.sight = (v.block w.1).sight := by
  cases r with
  | noteBlock | bed | flowerPot | skull | banner =>
    obtain ⟨t, -, ⟨-, rfl⟩ | ⟨s, hs, rfl⟩⟩ := cases_of_recordDriven rfl h
    · exact fun w hw => absurd hw List.not_mem_nil
    · intro w hw
      rw [List.mem_singleton.1 hw]
      exact (sight_recordState? hs).trans (hother (.inl rfl)).symm
  | snowyGround =>
    obtain rfl | ⟨j, -, -, -, rfl⟩ := cases_planSnowyGround h
    · exact fun w hw => absurd hw List.not_mem_nil
    · intro w hw
      rw [List.mem_singleton.1 hw]
      rfl
  | pumpkin =>
    obtain rfl | ⟨j, -, -, -, rfl⟩ := cases_planPumpkin h
    · exact fun w hw => absurd hw List.not_mem_nil
    · intro w hw
      rw [List.mem_singleton.1 hw]
      have hn : Sight.ofName "minecraft:pumpkin" = .other := by decide +kernel
      exact hn.trans (hother (.inr rfl)).symm
  | doublePlant =>
    obtain rfl | ⟨j, -, -, hp, rfl⟩ := cases_planDoublePlant h
    · exact fun w hw => absurd hw List.not_mem_nil
    · intro w hw
      rw [List.mem_singleton.1 hw]
      exact (Sight.ofName_eq_plant_iff.2 hp).trans (hplant rfl).symm
  | door =>
    obtain rfl | ⟨j, -, -, -, hn, rfl⟩ := cases_planDoor h
    · exact fun w hw => absurd hw List.not_mem_nil
    · intro w hw
      rcases List.mem_cons.1 hw with rfl | hw
      · rfl
      · rw [List.mem_singleton.1 hw]
        exact congrArg Sight.ofName hn.symm

end Rule

end Flattening
