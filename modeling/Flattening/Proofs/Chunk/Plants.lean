import Flattening.Proofs.Chunk.Doors
import Flattening.Proofs.Chunk.OneBlock

/-!
# Double plants after the upgrade

Only the lower half of a double plant has its kind as data.  An upper half takes the kind of the
cell below, which may be an upper half that has just taken its own; so in a stack of upper halves
the kind comes from the cell that the stack stands on, however high it is and however many sections
it passes.  A stack that stands on no lower half is one of sunflowers.

* `nearestBelow_iff`   the first cell below a stack, one step down;
* `Decoding.block_of_plant_below`, `Decoding.block_of_no_plant_below`   one upper half;
* `Decoding.kindOfFoot`     and by induction the whole stack below it;
* `double_plants_by_foot`   what becomes of double plants.
-/

namespace Flattening

/-! ## the foot of a stack -/

namespace ColumnCell

variable {p : ColumnCell → Bool} {i j k : ColumnCell}

/-- The cell `k` is the first one straight below `i` that the check leaves out. -/
structure NearestBelow (p : ColumnCell → Bool) (i k : ColumnCell) : Prop where
  below : k < i
  column : k.val % 256 = i.val % 256
  fails : p k = false
  between : ∀ m, k < m → m < i → m.val % 256 = i.val % 256 → p m = true

theorem not_nearestBelow (h : i.below? = none) : ¬NearestBelow p i k := by
  intro hk
  have hlt : k.val < i.val := hk.below
  have hcolumn := hk.column
  have hj : i.below? = some ⟨i.val - 256, by omega⟩ := by
    rw [next?_down]
    show i.val = i.val - 256 + 256
    omega
  rw [h] at hj
  cases hj

/-- Below `j` nothing else comes before `k`. -/
theorem nearestBelow_iff (hj : i.below? = some j) :
    NearestBelow p i k ↔ (p j = false ∧ k = j) ∨ (p j = true ∧ NearestBelow p j k) := by
  have hval : i.val = j.val + 256 := next?_down.1 hj
  have hji : j < i := by
    show j.val < i.val
    omega
  have hmod : j.val % 256 = i.val % 256 := by omega
  constructor
  · rintro ⟨hlt, hcolumn, hfails, hbetween⟩
    have hle : k.val ≤ j.val := by
      have hlt' : k.val < i.val := hlt
      omega
    obtain hkj | hkj := Nat.lt_or_eq_of_le hle
    · exact .inr ⟨hbetween j hkj hji hmod, hkj, hcolumn.trans hmod.symm, hfails,
        fun m hkm hmj hm => hbetween m hkm (Fin.lt_trans hmj hji) (hm.trans hmod)⟩
    · obtain rfl : k = j := Fin.ext hkj
      exact .inl ⟨hfails, rfl⟩
  · rintro (⟨hfails, rfl⟩ | ⟨hholds, hlt, hcolumn, hfails, hbetween⟩)
    · refine ⟨hji, hmod, hfails, fun m hkm hmi hm => ?_⟩
      -- no cell of the column lies between two neighbours
      have hkm' : k.val < m.val := hkm
      have hmi' : m.val < i.val := hmi
      omega
    · refine ⟨Fin.lt_trans hlt hji, hcolumn.trans hmod, hfails, fun m hkm hmi hm => ?_⟩
      have hmj : m.val ≤ j.val := by
        have hmi' : m.val < i.val := hmi
        omega
      obtain hmj | hmj := Nat.lt_or_eq_of_le hmj
      · exact hbetween m hkm hmj (hm.trans hmod.symm)
      · obtain rfl : m = j := Fin.ext hmj
        exact hholds

end ColumnCell

open ColumnCell

namespace Legacy

/-- A double plant is a lower half, or the upper half of a sunflower. -/
theorem halves_of_plants : ∀ b ∈ Rule.doublePlant.blocks,
    everyState (fun s => s.property? "half" == some "lower" ||
      s == .ofPairs "minecraft:sunflower" [("half", "upper")]) b = true := by decide +kernel

end Legacy

namespace Chunk

/-- The cell is listed as an upper half of the plant with this block id. -/
def listsUpperHalf (tags : List Tag) (b : Nat) (i : ColumnCell) : Bool :=
  listedId? tags i == some b &&
    ((listedState? tags i).bind fun s => s.property? "half") == some "upper"

namespace Decoding

variable {level : Tag} {log log' : Array Event} {c : Chunk} (d : Decoding level log log' c)

/-! ## one upper half -/

theorem half_cases {i : ColumnCell} (hi : d.id? i = some 175) :
    (d.state i).property? "half" = some "lower" ∨
      d.state i = .ofPairs "minecraft:sunflower" [("half", "upper")] := by
  have h := d.state_passes (Legacy.halves_of_plants 175 List.mem_cons_self) hi
  rw [Bool.or_eq_true, beq_iff_eq, beq_iff_eq] at h
  exact h

theorem state_of_upper_half {i : ColumnCell} (hi : d.id? i = some 175)
    (hu : (d.state i).property? "half" = some "upper") :
    d.state i = .ofPairs "minecraft:sunflower" [("half", "upper")] := by
  obtain hl | hs := d.half_cases hi
  · rw [hl] at hu
    exact absurd hu (by decide)
  · exact hs

/-- The cell below is settled before the upper half on it. -/
theorem block_of_plant_below {i j : ColumnCell} (hi : d.id? i = some 175)
    (hu : (d.state i).property? "half" = some "upper") (hj : i.below? = some j)
    (hid : d.id? j = some 175) :
    (c.settle log').1.block i =
      .ofPairs ((c.settle log').1.block j).name [("half", "upper")] := by
  have hr : Rule.ofBlock? 175 = some .doublePlant := Rule.ofBlock?_of_mem List.mem_cons_self
  obtain ⟨w, log₁, hw, hwi, -, hbelow, hstep⟩ := d.exists_turn hr nofun hi
  have hknown := d.layout.known j 175 _ hid (Rule.known_of_plant 175 List.mem_cons_self)
  have hplant : (w.block j).name ∈ Rule.doublePlants :=
    Sight.ofName_eq_plant_iff.1 ((hw j).trans hknown)
  have hji : j < i := lt_of_above? (above?_eq_some_iff.2 hj)
  rw [← hwi] at hu
  rw [hstep, Rule.doublePlant_turn_of_plant hu hj hplant, hbelow j hji hid]

theorem block_of_no_plant_below {i : ColumnCell} (hi : d.id? i = some 175)
    (h : (d.state i).property? "half" = some "upper" →
      ∀ j, i.below? = some j → d.id? j ≠ some 175) :
    (c.settle log').1.block i = d.state i := by
  have hr : Rule.ofBlock? 175 = some .doublePlant := Rule.ofBlock?_of_mem List.mem_cons_self
  obtain ⟨w, log₁, hw, hwi, -, -, hstep⟩ := d.exists_turn hr nofun hi
  rw [hstep, ← hwi]
  refine Rule.doublePlant_turn_of_pass (fun hu j hj hplant => ?_) log₁
  rw [hwi] at hu
  have hsight : d.layout.sight j = .plant :=
    (hw j).symm.trans (Sight.ofName_eq_plant_iff.2 hplant)
  exact h hu j hj (d.layout.plant j hsight)

/-! ## the stack below it -/

/-- What an upper half is in the end, by the cell that its stack stands on. -/
structure KindOfFoot (i : ColumnCell) : Prop where
  of_plant : ∀ k, NearestBelow (listsUpperHalf d.tags 175) i k →
    listsLowerHalf d.tags 175 k = true →
      (c.settle log').1.block i = .ofPairs (d.state k).name [("half", "upper")]
  of_other : (∀ k, NearestBelow (listsUpperHalf d.tags 175) i k →
    listsLowerHalf d.tags 175 k = false) →
      (c.settle log').1.block i = .ofPairs "minecraft:sunflower" [("half", "upper")]

/-- The stack of upper halves is one cell lower below the cell below. -/
theorem KindOfFoot.up {i j : ColumnCell} (hi : d.id? i = some 175)
    (hu : (d.state i).property? "half" = some "upper") (hj : i.below? = some j)
    (hid : d.id? j = some 175) (huj : (d.state j).property? "half" = some "upper")
    (h : d.KindOfFoot j) : d.KindOfFoot i := by
  have hupper : listsUpperHalf d.tags 175 j = true := d.listed_half_iff.2 ⟨hid, huj⟩
  have hfoot : ∀ k, NearestBelow (listsUpperHalf d.tags 175) i k ↔
      NearestBelow (listsUpperHalf d.tags 175) j k := by
    intro k
    rw [nearestBelow_iff hj, hupper]
    simp
  have hblock := d.block_of_plant_below hi hu hj hid
  constructor
  · intro k hk hl
    rw [hblock, h.of_plant k ((hfoot k).1 hk) hl]
    rfl
  · intro hno
    rw [hblock, h.of_other fun k hk => hno k ((hfoot k).2 hk)]
    rfl

/-- The cell below is the foot when it is no upper half. -/
theorem nearestBelow_of_no_upper {i j k : ColumnCell} (hj : i.below? = some j)
    (h : listsUpperHalf d.tags 175 j = false) :
    NearestBelow (listsUpperHalf d.tags 175) i k ↔ k = j := by
  rw [nearestBelow_iff hj, h]
  simp

/-- A stack on anything but a double plant stays as it is listed. -/
theorem KindOfFoot.of_no_plant {i : ColumnCell} (hi : d.id? i = some 175)
    (hu : (d.state i).property? "half" = some "upper")
    (hno : ∀ j, i.below? = some j → d.id? j ≠ some 175) : d.KindOfFoot i := by
  constructor
  · intro k hk hl
    have hid : d.id? k = some 175 := (d.listed_half_iff.1 hl).1
    cases hj : i.below? with
    | none => exact absurd hk (not_nearestBelow hj)
    | some j =>
      have hupper : listsUpperHalf d.tags 175 j = false :=
        Bool.eq_false_iff.2 fun h => hno j hj (d.listed_half_iff.1 h).1
      obtain rfl := (d.nearestBelow_of_no_upper hj hupper).1 hk
      exact absurd hid (hno k hj)
  · intro _
    rw [d.block_of_no_plant_below hi fun _ => hno, d.state_of_upper_half hi hu]

/-- A lower half stays as it is listed and gives its kind to the upper half on it. -/
theorem KindOfFoot.of_lower_half {i j : ColumnCell} (hi : d.id? i = some 175)
    (hu : (d.state i).property? "half" = some "upper") (hj : i.below? = some j)
    (hid : d.id? j = some 175) (huj : (d.state j).property? "half" ≠ some "upper") :
    d.KindOfFoot i := by
  have hupper : listsUpperHalf d.tags 175 j = false :=
    Bool.eq_false_iff.2 fun h => huj (d.listed_half_iff.1 h).2
  have hfoot : ∀ k, NearestBelow (listsUpperHalf d.tags 175) i k ↔ k = j := fun k =>
    d.nearestBelow_of_no_upper hj hupper
  constructor
  · intro k hk _
    obtain rfl := (hfoot k).1 hk
    have hkeeps := d.block_of_no_plant_below hid fun h => absurd h huj
    rw [d.block_of_plant_below hi hu hj hid, hkeeps]
  · intro hno
    obtain hl | hs := d.half_cases hid
    · have hlower : listsLowerHalf d.tags 175 j = true := d.listed_half_iff.2 ⟨hid, hl⟩
      rw [hno j ((hfoot j).2 rfl)] at hlower
      cases hlower
    · rw [hs] at huj
      exact absurd rfl huj

/-- **An upper half has the kind of the cell that its stack stands on.** -/
theorem kindOfFoot {i : ColumnCell} (hi : d.id? i = some 175)
    (hu : (d.state i).property? "half" = some "upper") : d.KindOfFoot i := by
  induction i using WellFoundedLT.induction with
  | ind i ih =>
    cases hj : i.below? with
    | none =>
      refine KindOfFoot.of_no_plant d hi hu fun j hj' => ?_
      rw [hj] at hj'
      cases hj'
    | some j =>
      by_cases hid : d.id? j = some 175
      · by_cases huj : (d.state j).property? "half" = some "upper"
        · have hji : j < i := lt_of_above? (above?_eq_some_iff.2 hj)
          exact KindOfFoot.up d hi hu hj hid huj (ih j hji hid huj)
        · exact KindOfFoot.of_lower_half d hi hu hj hid huj
      · refine KindOfFoot.of_no_plant d hi hu fun j' hj' => ?_
        obtain rfl := Option.some.inj (hj.symm.trans hj')
        exact hid

end Decoding

/-! ## all chunks -/

/-- **Double plants take their kind from the foot of their stack.**  Let `k` be the first cell
straight below an upper half that is not listed as an upper half itself, in whatever section.  If it
is listed as a lower half, the upper half ends with its name and no property but its half.  Where
there is no such cell, or it is anything else, the upper half is that of a sunflower.  Lower halves
stay as they are listed. -/
theorem double_plants_by_foot {level : Tag} {log log' : Array Event} {c : Chunk}
    (h : ofLevel level log = .ok c log') :
    ∃ tags, list? level "Sections" = .ok tags ∧ ∀ i s, listedId? tags i = some 175 →
      listedState? tags i = some s →
      (s.property? "half" = some "upper" →
        (∀ k t, NearestBelow (listsUpperHalf tags 175) i k → listsLowerHalf tags 175 k = true →
          listedState? tags k = some t → c.block i = .ofPairs t.name [("half", "upper")]) ∧
        ((∀ k, NearestBelow (listsUpperHalf tags 175) i k → listsLowerHalf tags 175 k = false) →
          c.block i = .ofPairs "minecraft:sunflower" [("half", "upper")])) ∧
      (s.property? "half" ≠ some "upper" → c.block i = s) := by
  obtain ⟨c₀, mid, hc₀, rfl, -⟩ := ofLevel_eq_ok_iff.1 h
  obtain ⟨d⟩ := decode_eq_ok_iff.1 hc₀
  refine ⟨d.tags, d.tags_eq, ?_⟩
  intro i s hi hs
  rw [← d.id?_eq] at hi
  obtain rfl := d.state_of_listed hs
  refine ⟨fun hu => ?_, fun hu => d.block_of_no_plant_below hi fun h => absurd h hu⟩
  have hkind := d.kindOfFoot hi hu
  refine ⟨fun k t hk hl ht => ?_, hkind.of_other⟩
  obtain rfl := d.state_of_listed ht
  exact hkind.of_plant k hk hl

/-- ids of a section full of double plants -/
def plantIds : Vector Int8 4096 := Vector.ofFn fun _ => -81

/-- data of lilacs in the lowest layer with upper halves over them -/
def lilacData : Vector Int8 2048 := Vector.ofFn fun k => if k.val < 128 then 17 else -120

/-- data of nothing but upper halves -/
def upperData : Vector Int8 2048 := Vector.ofFn fun _ => -120

/-- stacks of upper halves on lilacs, through two sections -/
def lilacSections (y z : Fin 16) : List Tag :=
  [sectionWith y plantIds lilacData, sectionWith z plantIds upperData]

theorem lastListed_lilacSections :
    LastListed (lilacSections 3 4) 3 (sectionWith 3 plantIds lilacData) ∧
      LastListed (lilacSections 3 4) 4 (sectionWith 4 plantIds upperData) :=
  lastListed_pair (y?_sectionWith 3 _ _) (y?_sectionWith 4 _ _) (by decide)

theorem listed_lilacs :
    listedId? (lilacSections 3 4) (.of 3 0) = some 175 ∧
      listedState? (lilacSections 3 4) (.of 3 0) = some (Legacy.state ⟨175, 1⟩) := by
  refine listed_sectionWith lastListed_lilacSections.1 ?_ ?_
  · rw [plantIds, Table.get_ofFn]
    rfl
  · rw [lilacData, Table.get_ofFn]
    rfl

/-- Over the lowest layer there are upper halves only. -/
theorem listsUpperHalf_over_lilacs {cell : Cell} (h : 256 ≤ cell.val) :
    listsUpperHalf (lilacSections 3 4) 175 (.of 3 cell) = true := by
  have hhalf : ∀ high, Nibbles.half (-120 : Int8).toUInt8 high = 8 := by decide
  have hupper : (Legacy.state ⟨175, 8⟩).property? "half" = some "upper" := by decide +kernel
  obtain ⟨hid, hs⟩ : listedId? (lilacSections 3 4) (.of 3 cell) = some 175 ∧
      listedState? (lilacSections 3 4) (.of 3 cell) = some (Legacy.state ⟨175, 8⟩) := by
    refine listed_sectionWith lastListed_lilacSections.1 ?_ ?_
    · rw [plantIds, Table.get_ofFn]
      rfl
    · rw [lilacData, Table.get_ofFn, if_neg (by show ¬cell.val / 2 < 128; omega)]
      exact hhalf _
  rw [listsUpperHalf, hid, hs, Option.bind_some, hupper]
  rfl

/-- The upper half in one section is a lilac, since its stack stands on one in another section. -/
theorem double_plants_by_foot_across_sections :
    ∃ c log', ofLevel (levelOf (lilacSections 3 4)) #[] = .ok c log' ∧
      c.block (.of 4 0) = .ofPairs "minecraft:lilac" [("half", "upper")] := by
  have hread : ∀ t ∈ lilacSections 3 4, ∃ s, Section.ofTag? t = .ok s :=
    ofTag?_of_mem_pair ⟨_, ofTag?_sectionWith 3 _ _⟩ ⟨_, ofTag?_sectionWith 4 _ _⟩
  obtain ⟨c, log', h⟩ := exists_ofLevel_levelOf hread #[]
  obtain ⟨tags, htags, hall⟩ := double_plants_by_foot h
  obtain rfl : lilacSections 3 4 = tags := Except.ok.inj htags
  have hlower : (Legacy.state ⟨175, 1⟩).property? "half" = some "lower" := by decide +kernel
  have hupper : (Legacy.state ⟨175, 8⟩).property? "half" = some "upper" := by decide +kernel
  have hlilac : (Legacy.state ⟨175, 1⟩).name = "minecraft:lilac" := by decide +kernel
  obtain ⟨hi, hs⟩ : listedId? (lilacSections 3 4) (.of 4 0) = some 175 ∧
      listedState? (lilacSections 3 4) (.of 4 0) = some (Legacy.state ⟨175, 8⟩) := by
    refine listed_sectionWith lastListed_lilacSections.2 ?_ ?_
    · rw [plantIds, Table.get_ofFn]
      rfl
    · rw [upperData, Table.get_ofFn]
      rfl
  obtain ⟨hk, ht⟩ := listed_lilacs
  have hfoot : NearestBelow (listsUpperHalf (lilacSections 3 4) 175) (.of 4 0) (.of 3 0) := by
    refine ⟨by decide, rfl, ?_, fun m hkm hmi hm => ?_⟩
    · rw [listsUpperHalf, ht, Option.bind_some, hlower]
      exact Bool.and_false _
    · have hkm' : 12288 < m.val := hkm
      have hmi' : m.val < 16384 := hmi
      have hm' : m.val % 256 = 0 := hm
      have hof : ColumnCell.of 3 ⟨m.val - 12288, by omega⟩ = m :=
        Fin.ext (show 12288 + (m.val - 12288) = m.val by omega)
      rw [← hof]
      exact listsUpperHalf_over_lilacs (show 256 ≤ m.val - 12288 by omega)
  have hl : listsLowerHalf (lilacSections 3 4) 175 (.of 3 0) = true := by
    rw [listsLowerHalf, hk, ht, Option.bind_some, hlower]
    rfl
  have hblock := ((hall _ _ hi hs).1 hupper).1 _ _ hfoot hl ht
  rw [hlilac] at hblock
  exact ⟨c, log', h, hblock⟩

end Chunk

end Flattening
