import Flattening.Block.Dye
import Flattening.Legacy.Catalogue
import Flattening.Rule.Basic

/-!
# What each rule comes to

One function for each rule, from all that it sees to all that it does.  A rule writes at most its
own cell, except that a door writes its two halves; only the block entity in its own cell is ever
taken.

* `consumes_of_plan`   ground, doors, pumpkins and double plants take no block entity, and
  every other rule that is resolved takes it.
-/

namespace Flattening

/-- a whole number of a block entity, cut to 32 bits -/
def recordInt? (r : Tag) (key : String) : Option Int :=
  ((r.get? key).bind Tag.int32?).map Int32.toInt

def boolText (b : Bool) : String := if b then "true" else "false"

namespace BlockState

def nameEndsWith (s : BlockState) (e : String) : Bool := e.toList.isSuffixOf s.name.toList

def propertyD (s : BlockState) (key default : String) : String := (s.property? key).getD default

end BlockState

namespace Rule

/-! ## neighbours -/

def planSnowyGround (v : View) (i : ColumnCell) : Except Unresolved Edit :=
  let s := v.block i
  if ["minecraft:grass_block", "minecraft:podzol", "minecraft:mycelium"].contains s.name then
    match i.above? with
    | none => .ok .nothing
    | some j =>
      if ["minecraft:snow", "minecraft:snow_block"].contains (v.block j).name then
        .ok (.write i (s.withProperty "snowy" "true"))
      else .ok .nothing
  else .ok .nothing

/-- one half of a joined door -/
def doorHalf (name facing half hinge opened powered : String) : BlockState :=
  .ofPairs name
    [("facing", facing), ("half", half), ("hinge", hinge), ("open", opened), ("powered", powered)]

/-- The lower half knows facing and whether the door is open, the upper half hinge and power.
Alpha chunks never stored the latter. -/
def planDoor (v : View) (i : ColumnCell) : Except Unresolved Edit :=
  let lower := v.block i
  if lower.nameEndsWith "_door" && lower.property? "half" == some "lower" then
    match i.above? with
    | none => .error .doorAtTop
    | some j =>
      let upper := v.block j
      if upper.name = lower.name then
        let hinge := if v.fromAlpha then "left" else upper.propertyD "hinge" "left"
        let powered := if v.fromAlpha then "false" else upper.propertyD "powered" "false"
        let facing := lower.propertyD "facing" "east"
        let opened := lower.propertyD "open" "false"
        .ok ⟨false,
          [(i, doorHalf lower.name facing "lower" hinge opened powered),
           (j, doorHalf lower.name facing "upper" hinge opened powered)]⟩
      else .error .noUpperHalf
  else .ok .nothing

def planPumpkin (v : View) (i : ColumnCell) : Except Unresolved Edit :=
  if (v.block i).name = "minecraft:carved_pumpkin" then
    match i.below? with
    | none => .ok .nothing
    | some j =>
      if ["minecraft:grass_block", "minecraft:dirt"].contains (v.block j).name then
        .ok (.write i (.plain "minecraft:pumpkin"))
      else .ok .nothing
  else .ok .nothing

def doublePlants : List String :=
  ["minecraft:sunflower", "minecraft:lilac", "minecraft:tall_grass", "minecraft:large_fern",
   "minecraft:rose_bush", "minecraft:peony"]

/-- An upper half takes the kind of plant from the cell below. -/
def planDoublePlant (v : View) (i : ColumnCell) : Except Unresolved Edit :=
  if (v.block i).property? "half" == some "upper" then
    match i.below? with
    | none => .error .upperHalfAtBottom
    | some j =>
      let lower := v.block j
      if doublePlants.contains lower.name then
        .ok (.write i (.ofPairs lower.name [("half", "upper")]))
      else .error .noDoublePlantBelow
  else .ok .nothing

/-! ## block entities -/

def clamp (low high n : Int) : Int := max low (min high n)

def noteBlockState (s : BlockState) (r : Tag) : BlockState :=
  let note := clamp 0 24 ((recordInt? r "note").getD 0)
  let powered := ((r.get? "powered").bind Tag.bool?).getD false
  .ofPairs "minecraft:note_block"
    [("instrument", s.propertyD "instrument" "harp"), ("note", toString note.toNat),
     ("powered", boolText powered)]

/-- Red is the colour that a bed has anyway. -/
def bedState? (s : BlockState) (r : Tag) : Option BlockState :=
  let color := (recordInt? r "color").getD 14
  if color = 14 then none
  else if s.nameEndsWith "_bed" then
    (dyeName? color).map fun dye => s.renamed ("minecraft:" ++ dye ++ "_bed")
  else none

/-- Banners number the dyes from the other end, and white is the colour they have anyway. -/
def bannerState? (s : BlockState) (r : Tag) : Option BlockState :=
  let base := (recordInt? r "Base").getD 15
  if base = 15 then none
  else (dyeName? (15 - base)).map fun dye =>
    if s.nameEndsWith "_wall_banner" then s.renamed ("minecraft:" ++ dye ++ "_wall_banner")
    else s.renamed ("minecraft:" ++ dye ++ "_banner")

/-- A name without a namespace belongs to the game's own. -/
def namespaced (name : String) : String :=
  if name.toList.contains ':' then name else "minecraft:" ++ name

/-- an old item with its data value, and the block of the pot that holds it -/
def pottedPlants : List ((String × Int) × String) :=
  [(("minecraft:red_flower", 0), "minecraft:potted_poppy"),
   (("minecraft:red_flower", 1), "minecraft:potted_blue_orchid"),
   (("minecraft:red_flower", 2), "minecraft:potted_allium"),
   (("minecraft:red_flower", 3), "minecraft:potted_azure_bluet"),
   (("minecraft:red_flower", 4), "minecraft:potted_red_tulip"),
   (("minecraft:red_flower", 5), "minecraft:potted_orange_tulip"),
   (("minecraft:red_flower", 6), "minecraft:potted_white_tulip"),
   (("minecraft:red_flower", 7), "minecraft:potted_pink_tulip"),
   (("minecraft:red_flower", 8), "minecraft:potted_oxeye_daisy"),
   (("minecraft:yellow_flower", 0), "minecraft:potted_dandelion"),
   (("minecraft:sapling", 0), "minecraft:potted_oak_sapling"),
   (("minecraft:sapling", 1), "minecraft:potted_spruce_sapling"),
   (("minecraft:sapling", 2), "minecraft:potted_birch_sapling"),
   (("minecraft:sapling", 3), "minecraft:potted_jungle_sapling"),
   (("minecraft:sapling", 4), "minecraft:potted_acacia_sapling"),
   (("minecraft:sapling", 5), "minecraft:potted_dark_oak_sapling"),
   (("minecraft:red_mushroom", 0), "minecraft:potted_red_mushroom"),
   (("minecraft:brown_mushroom", 0), "minecraft:potted_brown_mushroom"),
   (("minecraft:deadbush", 0), "minecraft:potted_dead_bush"),
   (("minecraft:tallgrass", 2), "minecraft:potted_fern"),
   (("minecraft:cactus", 0), "minecraft:potted_cactus")]

/-- The item is given by name or by its old number. -/
def potItem? (r : Tag) : Option String :=
  match r.get? "Item" with
  | none => none
  | some (.text name) => some (namespaced name)
  | some t => t.int32?.bind fun n =>
    if 0 ≤ n.toInt then Legacy.blockName? n.toInt.toNat else none

def flowerPotState (r : Tag) : BlockState :=
  let data := (recordInt? r "Data").getD 0
  .plain (((potItem? r).bind fun item => Entries.get? (item, data) pottedPlants).getD
    "minecraft:flower_pot")

/-- whose head it is, and whether it is a skull or a head -/
def skullKinds : List (String × String) :=
  [("skeleton", "skull"), ("wither_skeleton", "skull"), ("zombie", "head"), ("player", "head"),
   ("creeper", "head"), ("dragon", "head")]

/-- An unknown type is a skeleton. -/
def skullKind (r : Tag) : String × String :=
  let n := (recordInt? r "SkullType").getD 0
  ((if 0 ≤ n then skullKinds[n.toNat]? else none).getD ("skeleton", "skull"))

def skullState (s : BlockState) (r : Tag) : BlockState :=
  let (mob, kind) := skullKind r
  if s.nameEndsWith "_wall_skull" || s.nameEndsWith "_wall_head" then
    .ofPairs ("minecraft:" ++ mob ++ "_wall_" ++ kind) [("facing", s.propertyD "facing" "north")]
  else
    let rotation := (recordInt? r "Rot").getD 0 % 16
    .ofPairs ("minecraft:" ++ mob ++ "_" ++ kind) [("rotation", toString rotation.toNat)]

/-- The block entity is taken, and the state that it gives is written. -/
def fromRecord (missing : Unresolved) (state? : BlockState → Tag → Option BlockState) (v : View)
    (i : ColumnCell) : Except Unresolved Edit :=
  match v.record? i with
  | none => .error missing
  | some r =>
    match state? (v.block i) r with
    | none => .ok .consume
    | some s => .ok (.consumeAndWrite i s)

/-- what a rule comes to for one cell -/
def plan : Rule → View → ColumnCell → Except Unresolved Edit
  | .snowyGround => planSnowyGround
  | .noteBlock => fromRecord .noNoteBlockRecord fun s r => some (noteBlockState s r)
  | .bed => fromRecord .noBedRecord bedState?
  | .door => planDoor
  | .pumpkin => planPumpkin
  | .flowerPot => fromRecord .noFlowerPotRecord fun _ r => some (flowerPotState r)
  | .skull => fromRecord .noSkullRecord fun s r => some (skullState s r)
  | .doublePlant => planDoublePlant
  | .banner => fromRecord .noBannerRecord bannerState?

/-- the rules that follow a block entity -/
def isRecordDriven : Rule → Bool
  | .noteBlock | .bed | .flowerPot | .skull | .banner => true
  | .snowyGround | .door | .pumpkin | .doublePlant => false

theorem consumes_fromRecord {m : Unresolved} {f : BlockState → Tag → Option BlockState}
    {v : View} {i : ColumnCell} {e : Edit} (h : fromRecord m f v i = .ok e) :
    e.consumes = true := by
  unfold fromRecord at h
  split at h
  · cases h
  · split at h <;> cases h <;> rfl

theorem consumes_planSnowyGround {v : View} {i : ColumnCell} {e : Edit}
    (h : planSnowyGround v i = .ok e) : e.consumes = false := by
  unfold planSnowyGround at h
  grind [Edit.nothing, Edit.write]

theorem consumes_planDoor {v : View} {i : ColumnCell} {e : Edit} (h : planDoor v i = .ok e) :
    e.consumes = false := by
  unfold planDoor at h
  grind [Edit.nothing]

theorem consumes_planPumpkin {v : View} {i : ColumnCell} {e : Edit}
    (h : planPumpkin v i = .ok e) : e.consumes = false := by
  unfold planPumpkin at h
  grind [Edit.nothing, Edit.write]

theorem consumes_planDoublePlant {v : View} {i : ColumnCell} {e : Edit}
    (h : planDoublePlant v i = .ok e) : e.consumes = false := by
  unfold planDoublePlant at h
  grind [Edit.nothing, Edit.write]

theorem consumes_of_plan {r : Rule} {v : View} {i : ColumnCell} {e : Edit}
    (h : r.plan v i = .ok e) : e.consumes = r.isRecordDriven := by
  unfold plan at h
  cases r with
  | noteBlock | bed | flowerPot | skull | banner => exact consumes_fromRecord h
  | snowyGround => exact consumes_planSnowyGround h
  | door => exact consumes_planDoor h
  | pumpkin => exact consumes_planPumpkin h
  | doublePlant => exact consumes_planDoublePlant h

end Rule

end Flattening
