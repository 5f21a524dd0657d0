import Flattening.Proofs.Chunk.Listed
import Flattening.Proofs.Chunk.OneBlock
import Flattening.Proofs.Entries
import Flattening.Proofs.Rule.Doors

/-!
# Doors after the upgrade

What becomes of the cells of a door, told from the listed sections alone.  A lower half that stands
on no lower half of its door is joined with the cell of its door above it, whatever section that
lies in.

The rule looks for the other half of a door by its name and does not ask which half it is.  So where
lower halves of one door stand on each other, the second of every two is made an upper half.

* `Legacy.property?_of_door`     every state of a door has all five properties;
* `Decoding.exists_afterTurns`   the run over the cells of one door;
* `door_halves_joined`           halves that belong together end up joined;
* `door_halves_by_streak`        which half each cell of a door is in the end.
-/

namespace Flattening

open ColumnCell

/-! ## the states of doors -/

namespace Legacy

def doorKeys : List String := ["facing", "half", "hinge", "open", "powered"]

theorem doors_keys : ∀ b ∈ Rule.door.blocks,
    everyState (fun s => s.properties.map Prod.fst == doorKeys) b = true := by decide +kernel

/-- Every state of a door has these properties. -/
theorem keys_state_of_door {l : LegacyId} (h : l.block ∈ Rule.door.blocks) :
    (state l).properties.map Prod.fst = doorKeys :=
  beq_iff_eq.1 (of_everyState (doors_keys l.block h))

theorem property?_of_door {l : LegacyId} (h : l.block ∈ Rule.door.blocks) {key : String}
    (hkey : key ∈ doorKeys) : ∃ value, (state l).property? key = some value := by
  rw [← keys_state_of_door h] at hkey
  exact Option.isSome_iff_exists.1 (Entries.isSome_get?_iff.2 hkey)

end Legacy

namespace Chunk

/-! ## joined halves -/

/-- The state `out` is the given half of the door that a lower half `s` and a cell `t` above it make
together.  It has no properties but these. -/
structure JoinedFrom (alpha : Bool) (s t : BlockState) (half : String) (out : BlockState) :
    Prop where
  name_eq : out.name = s.name
  keys_eq : out.properties.map Prod.fst = ["facing", "half", "hinge", "open", "powered"]
  half_eq : out.property? "half" = some half
  facing_eq : out.property? "facing" = s.property? "facing"
  open_eq : out.property? "open" = s.property? "open"
  hinge_eq : out.property? "hinge" = if alpha then some "left" else t.property? "hinge"
  powered_eq : out.property? "powered" = if alpha then some "false" else t.property? "powered"

theorem joinedFrom_joinedHalf {v : View} {i j : ColumnCell}
    (hi : ∀ key ∈ Legacy.doorKeys, ∃ value, (v.block i).property? key = some value)
    (hj : ∀ key ∈ Legacy.doorKeys, ∃ value, (v.block j).property? key = some value)
    (half : String) :
    JoinedFrom v.fromAlpha (v.block i) (v.block j) half (v.joinedHalf i j half) := by
  obtain ⟨facing, hfacing⟩ := hi "facing" (by decide)
  obtain ⟨opened, hopened⟩ := hi "open" (by decide)
  obtain ⟨hinge, hhinge⟩ := hj "hinge" (by decide)
  obtain ⟨powered, hpowered⟩ := hj "powered" (by decide)
  have hproperties : (v.joinedHalf i j half).properties =
      [("facing", facing), ("half", half), ("hinge", if v.fromAlpha then "left" else hinge),
        ("open", opened), ("powered", if v.fromAlpha then "false" else powered)] := by
    rw [View.joinedHalf, Rule.properties_doorHalf]
    simp only [BlockState.propertyD, hfacing, hopened, hhinge, hpowered, Option.getD_some]
  have hproperty : ∀ key, (v.joinedHalf i j half).property? key = Entries.get? key
      [("facing", facing), ("half", half), ("hinge", if v.fromAlpha then "left" else hinge),
        ("open", opened), ("powered", if v.fromAlpha then "false" else powered)] := fun key => by
    rw [BlockState.property?, hproperties]
  refine ⟨rfl, by rw [hproperties]; rfl, hproperty _, (hproperty _).trans hfacing.symm,
    (hproperty _).trans hopened.symm, (hproperty _).trans ?_, (hproperty _).trans ?_⟩
  · rw [hhinge]
    cases v.fromAlpha <;> rfl
  · rw [hpowered]
    cases v.fromAlpha <;> rfl

/-! ## the run over the cells of a door -/

/-- The cell is listed as a lower half of the door with this block id. -/
def listsLowerHalf (tags : List Tag) (b : Nat) (i : ColumnCell) : Bool :=
  listedId? tags i == some b &&
    ((listedState? tags i).bind fun s => s.property? "half") == some "lower"

namespace Decoding

variable {level : Tag} {log log' : Array Event} {c : Chunk} (d : Decoding level log log' c)

/-- A cell has the name of a door exactly when it has the block id of the door. -/
theorem exists_door_name {b : Nat} (hb : b ∈ Rule.door.blocks) :
    ∃ n, (∀ s : BlockState, s.name = n → s.nameEndsWith "_door" = true) ∧
      ∀ i, (d.state i).name = n ↔ d.id? i = some b := by
  obtain ⟨⟨b, n⟩, hn, rfl, hknown⟩ := Rule.known_of_door b hb
  have hsuffix : ∀ p ∈ doorNames, "_door".toList.isSuffixOf p.2.toList = true := by decide +kernel
  refine ⟨n, fun s hs => ?_, fun i => ⟨fun h => ?_, fun h => ?_⟩⟩
  · rw [BlockState.nameEndsWith, hs]
    exact hsuffix (b, n) hn
  · have hsight : (d.state i).sight = .door n := by
      rw [BlockState.sight, h]
      exact Sight.ofName_of_door (b, n) hn
    obtain ⟨b', hid, hb'⟩ := d.layout.door i n hsight
    have hsame := doorNames_inj (b', n) hb' (b, n) hn rfl
    exact hid.trans (congrArg (fun p => some p.1) hsame)
  · exact (Sight.ofName_eq_door_iff.1 (d.layout.known i b _ h hknown)).1

/-- The state listed for a cell with a block id is the one it is decoded to. -/
theorem listedState?_of_id? {i : ColumnCell} {b : Nat} (h : d.id? i = some b) :
    listedState? d.tags i = some (d.state i) := by
  rw [id?, Option.map_eq_some_iff] at h
  obtain ⟨l, hl, -⟩ := h
  rw [listedState?, ← d.layers?_eq, state, hl]
  rfl

theorem listed_half_iff {b : Nat} {half : String} {i : ColumnCell} :
    (listedId? d.tags i == some b &&
      ((listedState? d.tags i).bind fun s => s.property? "half") == some half) = true ↔
        d.id? i = some b ∧ (d.state i).property? "half" = some half := by
  rw [Bool.and_eq_true, beq_iff_eq, beq_iff_eq, ← d.id?_eq]
  refine and_congr_right fun hid => ?_
  rw [d.listedState?_of_id? hid, Option.bind_some]

theorem isLowerHalf_eq {b : Nat} {n : String}
    (hn : ∀ i, (d.state i).name = n ↔ d.id? i = some b) :
    (CellStore.view c).isLowerHalf n = listsLowerHalf d.tags b := by
  funext i
  have hblock : (CellStore.view c).block i = d.state i := d.block_eq i
  rw [Bool.eq_iff_iff, View.isLowerHalf_iff, hblock, hn]
  exact d.listed_half_iff.symm

/-- **The run over the cells of one door.** -/
theorem exists_afterTurns {b : Nat} (hb : b ∈ Rule.door.blocks) :
    ∃ n w, (∀ i, (d.state i).name = n ↔ d.id? i = some b) ∧
      (∀ i, i ∈ c.waitingUnder b ↔ ((CellStore.view c).block i).name = n) ∧
      AfterTurns (CellStore.view c) n (c.waitingUnder b) w ∧
      ∀ i, d.id? i = some b → (c.settle log').1.block i = w.block i := by
  obtain ⟨n, hsuffix, hn⟩ := d.exists_door_name hb
  have hr := Rule.ofBlock?_of_mem hb
  have hruled : b ∈ Rule.ruledBlocks := (Rule.ofBlock?_isSome_iff b).1 (by rw [hr]; rfl)
  have hall : ∀ i, i ∈ c.waitingUnder b ↔ ((CellStore.view c).block i).name = n := by
    intro i
    have hblock : (CellStore.view c).block i = d.state i := d.block_eq i
    rw [hblock, hn, d.mem_waiting_iff hruled]
  refine ⟨n, _, hn, hall, (AfterTurns.nil (CellStore.view c) n).apply (d.pairwise_waiting b) hall
    (fun i hi => hsuffix _ ((hall i).1 hi)) log', fun i hi => ?_⟩
  exact (d.settle_of_rule hr hi).1

theorem property?_of_door {b : Nat} (hb : b ∈ Rule.door.blocks) {i : ColumnCell}
    (hi : d.id? i = some b) {key : String} (hkey : key ∈ Legacy.doorKeys) :
    ∃ value, (d.state i).property? key = some value := by
  obtain ⟨id, rfl, hs⟩ := d.sight_state_of_id? hi
  rw [hs]
  exact Legacy.property?_of_door hb hkey

end Decoding

/-! ## doors -/

/-- **Door halves that belong together end up joined.**  Let the cell `i` be listed as a lower half
that stands on no lower half of its door, and let the cell `j` right above it, in whatever section,
have the same block id.  Then the two are the two halves of one door, with facing and opening of the
lower one and with hinge and power of the upper one, or the default of these in an alpha chunk. -/
theorem door_halves_joined {level : Tag} {log log' : Array Event} {c : Chunk}
    (h : ofLevel level log = .ok c log') :
    ∃ tags, list? level "Sections" = .ok tags ∧
      ∀ b ∈ [64, 71, 193, 194, 195, 196, 197], ∀ i j s t, i.above? = some j →
        listedId? tags i = some b → listedId? tags j = some b →
        listedState? tags i = some s → listedState? tags j = some t →
        s.property? "half" = some "lower" →
        (∀ k, i.below? = some k → listsLowerHalf tags b k = false) →
        JoinedFrom (((level.get? "convertedFromAlphaFormat").bind Tag.bool?).getD false) s t "lower"
            (c.block i) ∧
          JoinedFrom (((level.get? "convertedFromAlphaFormat").bind Tag.bool?).getD false) s t
            "upper" (c.block j) := by
  obtain ⟨c₀, mid, hc₀, rfl, -⟩ := ofLevel_eq_ok_iff.1 h
  obtain ⟨d⟩ := decode_eq_ok_iff.1 hc₀
  refine ⟨d.tags, d.tags_eq, ?_⟩
  intro b hb i j s t hij hi hj hs ht hl hbelow
  rw [← d.id?_eq] at hi hj
  obtain rfl := Option.some.inj ((d.listedState?_of_id? hi).symm.trans hs)
  obtain rfl := Option.some.inj ((d.listedState?_of_id? hj).symm.trans ht)
  obtain ⟨n, w, hn, hall, hw, hsettle⟩ := d.exists_afterTurns hb
  have hblock : ∀ k, (CellStore.view c₀).block k = d.state k := d.block_eq
  have hjoins : Joins (CellStore.view c₀) n i j := by
    refine ⟨hij, ?_, ?_, ?_⟩
    · rw [View.isLowerHalf_iff, hblock, hn]
      exact ⟨hi, hl⟩
    · rw [hblock, hn]
      exact hj
    · rw [d.isLowerHalf_eq hn, streakBelow_eq_zero hbelow]
  have hwaits : i ∈ c₀.waitingUnder b := (hall i).2 (by rw [hblock, hn]; exact hi)
  have hjoined := joinedFrom_joinedHalf (v := CellStore.view c₀) (i := i) (j := j)
    (by rw [hblock]; exact fun key hkey => d.property?_of_door hb hi hkey)
    (by rw [hblock]; exact fun key hkey => d.property?_of_door hb hj hkey)
  have halpha : (CellStore.view c₀).fromAlpha =
      ((level.get? "convertedFromAlphaFormat").bind Tag.bool?).getD false := d.fromAlpha_eq
  rw [halpha, hblock, hblock] at hjoined
  rw [hsettle i hi, hsettle j hj, hw.lower i hwaits j hjoins, hw.upper i hwaits j hjoins]
  exact ⟨hjoined "lower", hjoined "upper"⟩

/-- ids of a section of stone with doors in its topmost layer -/
def doorsOverStone : Vector Int8 4096 := Vector.ofFn fun c => if c.val < 3840 then 1 else 64

/-- a section full of upper halves, each cell with data 8 -/
def upperDoors (y : Fin 16) : Tag :=
  sectionWith y (Vector.ofFn fun _ => 64) (Vector.ofFn fun _ => -120)

/-- lower halves at the top of the section at `y`, and upper halves all over the one at `z` -/
def doorSections (y z : Fin 16) : List Tag := [sectionOf y doorsOverStone, upperDoors z]

theorem lastListed_doorSections :
    LastListed (doorSections 3 4) 3 (sectionOf 3 doorsOverStone) ∧
      LastListed (doorSections 3 4) 4 (upperDoors 4) :=
  lastListed_pair (y?_sectionOf 3 doorsOverStone) (y?_sectionWith 4 _ _) (by decide)

/-- The stone, the lower halves over it and the upper halves over these. -/
theorem listed_doorSections :
    listedId? (doorSections 3 4) (.of 3 3584) = some 1 ∧
      (listedId? (doorSections 3 4) (.of 3 3840) = some 64 ∧
        listedState? (doorSections 3 4) (.of 3 3840) = some (Legacy.state ⟨64, 0⟩)) ∧
      listedId? (doorSections 3 4) (.of 4 0) = some 64 ∧
        listedState? (doorSections 3 4) (.of 4 0) = some (Legacy.state ⟨64, 8⟩) := by
  obtain ⟨hlower, hupper⟩ := lastListed_doorSections
  refine ⟨(listed_sectionOf hlower ?_).1, listed_sectionOf hlower ?_,
    listed_sectionWith hupper ?_ ?_⟩
  · rw [doorsOverStone, Table.get_ofFn]
    rfl
  · rw [doorsOverStone, Table.get_ofFn]
    rfl
  · rw [Table.get_ofFn]
    rfl
  · rw [Table.get_ofFn]
    rfl

/-- The two halves may lie in two sections. -/
theorem door_halves_joined_across_sections :
    ∃ c log', ofLevel (levelOf (doorSections 3 4)) #[] = .ok c log' ∧
      JoinedFrom false (Legacy.state ⟨64, 0⟩) (Legacy.state ⟨64, 8⟩) "lower"
          (c.block (.of 3 3840)) ∧
        JoinedFrom false (Legacy.state ⟨64, 0⟩) (Legacy.state ⟨64, 8⟩) "upper"
          (c.block (.of 4 0)) := by
  have hread : ∀ t ∈ doorSections 3 4, ∃ s, Section.ofTag? t = .ok s :=
    ofTag?_of_mem_pair ⟨_, ofTag?_sectionOf 3 doorsOverStone⟩ ⟨_, ofTag?_sectionWith 4 _ _⟩
  obtain ⟨c, mid, hc⟩ := exists_decode_levelOf hread #[]
  have h := ofLevel_eq_ok_iff.2 ⟨c, mid, hc, rfl, rfl⟩
  obtain ⟨tags, htags, hjoined⟩ := door_halves_joined h
  obtain rfl : doorSections 3 4 = tags := Except.ok.inj htags
  obtain ⟨hstone, ⟨hi, hs⟩, hj, ht⟩ := listed_doorSections
  have hlower : (Legacy.state ⟨64, 0⟩).property? "half" = some "lower" := by decide +kernel
  refine ⟨_, _, h, hjoined 64 (by decide) _ _ _ _ (next?_up.2 rfl) hi hj hs ht hlower ?_⟩
  intro k hk
  have hval : 16128 = k.val + 256 := next?_down.1 hk
  obtain rfl : ColumnCell.of 3 3584 = k := Fin.ext (show 15872 = k.val by omega)
  rw [listsLowerHalf, hstone]
  rfl

/-- **Which half each cell of a door is in the end.**  A cell that stands on an odd number of lower
halves of its door is made an upper half, and any other stays the half that it was.  It stays wholly
as it was when the number is even and no cell of its door is above. -/
theorem door_halves_by_streak {level : Tag} {log log' : Array Event} {c : Chunk}
    (h : ofLevel level log = .ok c log') :
    ∃ tags, list? level "Sections" = .ok tags ∧
      ∀ b ∈ [64, 71, 193, 194, 195, 196, 197], ∀ i s, listedId? tags i = some b →
        listedState? tags i = some s →
        (c.block i).name = s.name ∧
        (c.block i).property? "half" =
          (if streakBelow (listsLowerHalf tags b) i % 2 = 1 then some "upper"
          else s.property? "half") ∧
        (streakBelow (listsLowerHalf tags b) i % 2 = 0 →
          (∀ j, i.above? = some j → listedId? tags j ≠ some b) → c.block i = s) := by
  obtain ⟨c₀, mid, hc₀, rfl, -⟩ := ofLevel_eq_ok_iff.1 h
  obtain ⟨d⟩ := decode_eq_ok_iff.1 hc₀
  refine ⟨d.tags, d.tags_eq, ?_⟩
  intro b hb i s hi hs
  rw [← d.id?_eq] at hi
  obtain rfl := Option.some.inj ((d.listedState?_of_id? hi).symm.trans hs)
  obtain ⟨n, w, hn, hall, hw, hsettle⟩ := d.exists_afterTurns hb
  have hblock : ∀ k, (CellStore.view c₀).block k = d.state k := d.block_eq
  have hname : ((CellStore.view c₀).block i).name = n := by
    rw [hblock, hn]
    exact hi
  have hhalf := hw.half_eq hall hname
  rw [d.isLowerHalf_eq hn, hblock] at hhalf
  rw [hsettle i hi]
  refine ⟨?_, hhalf, fun heven habove => ?_⟩
  · rw [hw.name_eq hall hname, (hn i).2 hi]
  · obtain ⟨j, hj, -⟩ | ⟨k, hk, -⟩ | ⟨-, -, hsame⟩ := hw.block_cases hall hname
    · refine absurd ?_ (habove j hj.above)
      rw [← d.id?_eq, ← hn, ← hblock]
      exact hj.same
    · have hodd := (exists_joins_iff hname).1 ⟨k, hk⟩
      rw [d.isLowerHalf_eq hn] at hodd
      omega
    · rw [hsame, hblock]

/-- ids of a section full of doors; without data they are lower halves -/
def stackedDoors : Vector Int8 4096 := Vector.ofFn fun _ => 64

theorem listed_stackedDoors (cell : Cell) :
    listedId? [sectionOf 3 stackedDoors] (.of 3 cell) = some 64 ∧
      listedState? [sectionOf 3 stackedDoors] (.of 3 cell) = some (Legacy.state ⟨64, 0⟩) := by
  have hlast : LastListed [sectionOf 3 stackedDoors] 3 (sectionOf 3 stackedDoors) :=
    ⟨[], [], rfl, y?_sectionOf 3 stackedDoors, fun u hu => absurd hu List.not_mem_nil⟩
  refine listed_sectionOf hlast ?_
  rw [stackedDoors, Table.get_ofFn]
  rfl

/-- The lowest of them stand on nothing. -/
theorem listedId?_below_stackedDoors (cell : Cell) :
    listedId? [sectionOf 3 stackedDoors] (.of 2 cell) = none := by
  rw [listedId?, sectionY_of, listedLayers?, lastListed?, List.filter_singleton, y?_sectionOf]
  rfl

/-- The lower half that stands on another one is made an upper half. -/
theorem door_halves_by_streak_stacked :
    ∃ c log', ofLevel (levelOf [sectionOf 3 stackedDoors]) #[] = .ok c log' ∧
      ((listedState? [sectionOf 3 stackedDoors] (.of 3 256)).bind fun s => s.property? "half") =
        some "lower" ∧
      (c.block (.of 3 256)).property? "half" = some "upper" := by
  obtain ⟨c, log', h⟩ := exists_ofLevel_sectionOf 3 stackedDoors #[]
  obtain ⟨tags, htags, hdoors⟩ := door_halves_by_streak h
  obtain rfl : [sectionOf 3 stackedDoors] = tags := Except.ok.inj htags
  have hlower : (Legacy.state ⟨64, 0⟩).property? "half" = some "lower" := by decide +kernel
  obtain ⟨hi, hs⟩ := listed_stackedDoors 256
  obtain ⟨hi₀, hs₀⟩ := listed_stackedDoors 0
  have hground : streakBelow (listsLowerHalf [sectionOf 3 stackedDoors] 64) (.of 3 0) = 0 := by
    refine streakBelow_eq_zero fun k hk => ?_
    have hval : 12288 = k.val + 256 := next?_down.1 hk
    obtain rfl : ColumnCell.of 2 3840 = k := Fin.ext (show 12032 = k.val by omega)
    rw [listsLowerHalf, listedId?_below_stackedDoors]
    rfl
  have hbelow : (ColumnCell.of 3 256).below? = some (.of 3 0) :=
    above?_eq_some_iff.1 (next?_up.2 rfl)
  have hstreak : streakBelow (listsLowerHalf [sectionOf 3 stackedDoors] 64) (.of 3 256) = 1 := by
    rw [streakBelow_of_below hbelow, hground, listsLowerHalf, hi₀, hs₀, Option.bind_some, hlower]
    rfl
  obtain ⟨-, hhalf, -⟩ := hdoors 64 (by decide) _ _ hi hs
  rw [hstreak] at hhalf
  exact ⟨c, log', h, by rw [hs, Option.bind_some, hlower], hhalf⟩

end Chunk

end Flattening
