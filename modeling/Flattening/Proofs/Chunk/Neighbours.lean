import Flattening.Proofs.Chunk.Listed
import Flattening.Proofs.Chunk.OneBlock

/-!
# Ground under snow and pumpkins on soil

Ground becomes snowy under snow, and a pumpkin loses its face on grass or dirt.  The rules look at
a neighbour while the run is on; but no rule makes or takes away snow or soil, so what counts is
the neighbour's listed number alone, whatever section it lies in.

* `Decoding.snowAbove_iff`, `Decoding.soilBelow_iff`   the neighbours at a turn are those listed;
* `ground_and_pumpkins_by_neighbour`   what becomes of ground and of pumpkins.
-/

namespace Flattening

namespace Legacy

theorem snowless_ground : ∀ b ∈ Rule.snowyGround.blocks,
    everyState (fun s => s.property? "snowy" != some "true") b = true := by decide +kernel

theorem carved_pumpkins : ∀ b ∈ Rule.pumpkin.blocks,
    everyState (fun s => s.name == "minecraft:carved_pumpkin") b = true := by decide +kernel

end Legacy

namespace Chunk

/-- what lies in a cell by its listed number alone, which is air without block data -/
def listedBlock (tags : List Tag) (i : ColumnCell) : BlockState :=
  (listedState? tags i).getD .air

/-- The state `s` of the cell is one of ground that turns snowy, and snow is listed above it. -/
def SnowyBy (tags : List Tag) (i : ColumnCell) (s : BlockState) : Prop :=
  s.name ∈ ["minecraft:grass_block", "minecraft:podzol", "minecraft:mycelium"] ∧
    SnowAbove (listedBlock tags) i

namespace Decoding

variable {level : Tag} {log log' : Array Event} {c : Chunk} (d : Decoding level log log' c)

theorem sight_listedBlock {w : View} (hw : d.layout.Shows w) (j : ColumnCell) :
    (w.block j).sight = (listedBlock d.tags j).sight := by
  rw [hw j, listedBlock, ← d.state_eq]
  rfl

theorem snowAbove_iff {w : View} (hw : d.layout.Shows w) (i : ColumnCell) :
    SnowAbove w.block i ↔ SnowAbove (listedBlock d.tags) i :=
  snowAbove_congr (d.sight_listedBlock hw) i

theorem soilBelow_iff {w : View} (hw : d.layout.Shows w) (i : ColumnCell) :
    SoilBelow w.block i ↔ SoilBelow (listedBlock d.tags) i :=
  soilBelow_congr (d.sight_listedBlock hw) i

/-! ## ground -/

theorem block_of_snowy {b : Nat} (hb : b ∈ Rule.snowyGround.blocks) {i : ColumnCell}
    (hi : d.id? i = some b) (hs : SnowyBy d.tags i (d.state i)) :
    (c.settle log').1.block i = (d.state i).withProperty "snowy" "true" := by
  obtain ⟨w, log₁, hw, hwi, -, -, hstep⟩ := d.exists_turn (Rule.ofBlock?_of_mem hb) nofun hi
  rw [← hwi] at hs
  rw [hstep, Rule.snowyGround_turn_of_snow hs.1 ((d.snowAbove_iff hw i).2 hs.2), hwi]

theorem block_of_not_snowy {b : Nat} (hb : b ∈ Rule.snowyGround.blocks) {i : ColumnCell}
    (hi : d.id? i = some b) (hs : ¬SnowyBy d.tags i (d.state i)) :
    (c.settle log').1.block i = d.state i := by
  obtain ⟨w, log₁, hw, hwi, -, -, hstep⟩ := d.exists_turn (Rule.ofBlock?_of_mem hb) nofun hi
  rw [hstep, ← hwi]
  refine Rule.snowyGround_turn_of_no_snow (fun hg hsnow => hs ⟨?_, ?_⟩) log₁
  · rw [← hwi]
    exact hg
  · exact (d.snowAbove_iff hw i).1 hsnow

/-- No ground is listed as snowy. -/
theorem ne_snowy {b : Nat} (hb : b ∈ Rule.snowyGround.blocks) {i : ColumnCell}
    (hi : d.id? i = some b) : d.state i ≠ (d.state i).withProperty "snowy" "true" := by
  have hsnowless := bne_iff_ne.1 (d.state_passes (Legacy.snowless_ground b hb) hi)
  intro h
  refine hsnowless ?_
  rw [h, BlockState.property?_with_self]

/-! ## pumpkins -/

theorem name_of_pumpkin {i : ColumnCell} (hi : d.id? i = some 86) :
    (d.state i).name = "minecraft:carved_pumpkin" :=
  beq_iff_eq.1 (d.state_passes (Legacy.carved_pumpkins 86 List.mem_cons_self) hi)

theorem block_of_soil {i : ColumnCell} (hi : d.id? i = some 86)
    (hs : SoilBelow (listedBlock d.tags) i) :
    (c.settle log').1.block i = .plain "minecraft:pumpkin" := by
  have hr : Rule.ofBlock? 86 = some .pumpkin := Rule.ofBlock?_of_mem List.mem_cons_self
  obtain ⟨w, log₁, hw, hwi, -, -, hstep⟩ := d.exists_turn hr nofun hi
  have hn : (w.block i).name = "minecraft:carved_pumpkin" := by
    rw [hwi]
    exact d.name_of_pumpkin hi
  rw [hstep, Rule.pumpkin_turn_of_soil hn ((d.soilBelow_iff hw i).2 hs)]

theorem block_of_no_soil {i : ColumnCell} (hi : d.id? i = some 86)
    (hs : ¬SoilBelow (listedBlock d.tags) i) : (c.settle log').1.block i = d.state i := by
  have hr : Rule.ofBlock? 86 = some .pumpkin := Rule.ofBlock?_of_mem List.mem_cons_self
  obtain ⟨w, log₁, hw, hwi, -, -, hstep⟩ := d.exists_turn hr nofun hi
  rw [hstep, ← hwi]
  exact Rule.pumpkin_turn_of_no_soil (fun _ h => hs ((d.soilBelow_iff hw i).1 h)) log₁

end Decoding

/-! ## all chunks -/

/-- **Ground and pumpkins are settled by their listed neighbours alone.**  Grass, podzol and
mycelium turn snowy when snow is listed for the cell above them, and pumpkins lose their face when
grass or dirt is listed for the cell below; otherwise both stay as they are listed.  Where nothing
is listed there is air. -/
theorem ground_and_pumpkins_by_neighbour {level : Tag} {log log' : Array Event} {c : Chunk}
    (h : ofLevel level log = .ok c log') :
    ∃ tags, list? level "Sections" = .ok tags ∧ ∀ i s, listedState? tags i = some s →
      (∀ b ∈ [2, 3, 110], listedId? tags i = some b →
        (c.block i = s.withProperty "snowy" "true" ↔ SnowyBy tags i s) ∧
          (¬SnowyBy tags i s → c.block i = s)) ∧
      (listedId? tags i = some 86 →
        (c.block i = .plain "minecraft:pumpkin" ↔ SoilBelow (listedBlock tags) i) ∧
          (¬SoilBelow (listedBlock tags) i → c.block i = s)) := by
  obtain ⟨c₀, mid, hc₀, rfl, -⟩ := ofLevel_eq_ok_iff.1 h
  obtain ⟨d⟩ := decode_eq_ok_iff.1 hc₀
  refine ⟨d.tags, d.tags_eq, ?_⟩
  intro i s hs
  obtain rfl := d.state_of_listed hs
  constructor
  · intro b hb hi
    rw [← d.id?_eq] at hi
    refine ⟨⟨fun hsnowy => ?_, d.block_of_snowy hb hi⟩, d.block_of_not_snowy hb hi⟩
    by_contra hnot
    exact d.ne_snowy hb hi ((d.block_of_not_snowy hb hi hnot).symm.trans hsnowy)
  · intro hi
    rw [← d.id?_eq] at hi
    refine ⟨⟨fun hplain => ?_, d.block_of_soil hi⟩, d.block_of_no_soil hi⟩
    by_contra hnot
    have hname := d.name_of_pumpkin hi
    rw [← d.block_of_no_soil hi hnot, hplain] at hname
    exact absurd hname (by decide)

/-- ids of a section of grass -/
def grassIds : Vector Int8 4096 := Vector.ofFn fun _ => 2

/-- ids of a section in which snow blocks and pumpkins take turns -/
def snowAndPumpkinIds : Vector Int8 4096 := Vector.ofFn fun c => if c.val % 2 = 0 then 80 else 86

/-- snow blocks and pumpkins on grass, in two sections -/
def winterSections (y z : Fin 16) : List Tag :=
  [sectionOf y grassIds, sectionOf z snowAndPumpkinIds]

theorem lastListed_winterSections :
    LastListed (winterSections 3 4) 3 (sectionOf 3 grassIds) ∧
      LastListed (winterSections 3 4) 4 (sectionOf 4 snowAndPumpkinIds) :=
  lastListed_pair (y?_sectionOf 3 grassIds) (y?_sectionOf 4 snowAndPumpkinIds) (by decide)

theorem listed_grass (cell : Cell) :
    listedId? (winterSections 3 4) (.of 3 cell) = some 2 ∧
      listedState? (winterSections 3 4) (.of 3 cell) = some (Legacy.state ⟨2, 0⟩) :=
  listed_sectionOf lastListed_winterSections.1 (by rw [grassIds, Table.get_ofFn]; rfl)

theorem listed_snow_and_pumpkins (cell : Cell) :
    listedId? (winterSections 3 4) (.of 4 cell) = some (if cell.val % 2 = 0 then 80 else 86) ∧
      listedState? (winterSections 3 4) (.of 4 cell) =
        some (Legacy.state ⟨if cell.val % 2 = 0 then 80 else 86, 0⟩) := by
  refine listed_sectionOf lastListed_winterSections.2 ?_
  rw [snowAndPumpkinIds, Table.get_ofFn]
  split
  · rfl
  · rfl

/-- The grass lies under snow and the pumpkin on grass, each at the border of two sections. -/
theorem ground_and_pumpkins_by_neighbour_across_sections :
    ∃ c log', ofLevel (levelOf (winterSections 3 4)) #[] = .ok c log' ∧
      c.block (.of 3 3840) = (Legacy.state ⟨2, 0⟩).withProperty "snowy" "true" ∧
      c.block (.of 4 1) = .plain "minecraft:pumpkin" := by
  have hread : ∀ t ∈ winterSections 3 4, ∃ s, Section.ofTag? t = .ok s :=
    ofTag?_of_mem_pair ⟨_, ofTag?_sectionOf 3 grassIds⟩ ⟨_, ofTag?_sectionOf 4 snowAndPumpkinIds⟩
  obtain ⟨c, log', h⟩ := exists_ofLevel_levelOf hread #[]
  obtain ⟨tags, htags, hall⟩ := ground_and_pumpkins_by_neighbour h
  obtain rfl : winterSections 3 4 = tags := Except.ok.inj htags
  obtain ⟨hgrass, hgrass'⟩ := listed_grass 3840
  obtain ⟨-, hsoil'⟩ := listed_grass 3841
  have hsnow : listedState? (winterSections 3 4) (.of 4 0) = some (Legacy.state ⟨80, 0⟩) :=
    (listed_snow_and_pumpkins 0).2
  obtain ⟨hpumpkin, hpumpkin'⟩ : listedId? (winterSections 3 4) (.of 4 1) = some 86 ∧
      listedState? (winterSections 3 4) (.of 4 1) = some (Legacy.state ⟨86, 0⟩) :=
    listed_snow_and_pumpkins 1
  have habove : ColumnCell.above? (.of 3 3840) = some (.of 4 0) := ColumnCell.next?_up.2 rfl
  have hbelow : ColumnCell.below? (.of 4 1) = some (.of 3 3841) := ColumnCell.next?_down.2 rfl
  have hsnowy : SnowyBy (winterSections 3 4) (.of 3 3840) (Legacy.state ⟨2, 0⟩) := by
    refine ⟨by decide +kernel, .of 4 0, habove, ?_⟩
    rw [listedBlock, hsnow, Option.getD_some]
    decide +kernel
  have hsoil : SoilBelow (listedBlock (winterSections 3 4)) (.of 4 1) := by
    refine ⟨.of 3 3841, hbelow, ?_⟩
    rw [listedBlock, hsoil', Option.getD_some]
    decide +kernel
  refine ⟨c, log', h, ?_, ?_⟩
  · exact ((hall _ _ hgrass').1 2 (by decide) hgrass).1.2 hsnowy
  · exact ((hall _ _ hpumpkin').2 hpumpkin).1.2 hsoil

end Chunk

end Flattening
