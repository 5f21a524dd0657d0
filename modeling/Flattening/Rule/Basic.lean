import Flattening.Block.State
import Flattening.Geometry.Cell
import Flattening.Tag.Basic

/-!
# Rules for blocks that their number alone does not settle

Some legacy blocks look to a neighbouring cell or to the block entity in their own cell.  They
are decoded like all others first; then the rule of their block id runs over them.

Here is what a rule reads and writes: a `View` is a chunk as the rule sees it, and an `Edit` says
what the rule does for one cell.  Else the rule says what it missed.

* `ofBlock?_isSome_iff`   the block ids that have a rule;
* `ofBlock?_of_mem`       and which one it is.
-/

namespace Flattening

inductive Rule where
  | snowyGround | noteBlock | bed | door | pumpkin | flowerPot | skull | doublePlant | banner
  deriving DecidableEq, Repr

namespace Rule

def name : Rule → String
  | .snowyGround => "snowy ground"
  | .noteBlock => "note block"
  | .bed => "bed"
  | .door => "door"
  | .pumpkin => "pumpkin"
  | .flowerPot => "flower pot"
  | .skull => "skull"
  | .doublePlant => "double plant"
  | .banner => "banner"

/-- the block ids of a rule, in ascending order -/
def blocks : Rule → List Nat
  | .snowyGround => [2, 3, 110]
  | .noteBlock => [25]
  | .bed => [26]
  | .door => [64, 71, 193, 194, 195, 196, 197]
  | .pumpkin => [86]
  | .flowerPot => [140]
  | .skull => [144]
  | .doublePlant => [175]
  | .banner => [176, 177]

def all : List Rule :=
  [.snowyGround, .noteBlock, .bed, .door, .pumpkin, .flowerPot, .skull, .doublePlant, .banner]

theorem mem_all (r : Rule) : r ∈ all := by cases r <;> decide

def ofBlock? (block : Nat) : Option Rule := all.find? fun r => r.blocks.contains block

/-- all block ids that have a rule, in ascending order -/
def ruledBlocks : List Nat :=
  [2, 3, 25, 26, 64, 71, 86, 110, 140, 144, 175, 176, 177, 193, 194, 195, 196, 197]

theorem ofBlock?_isSome_iff (b : Nat) : (ofBlock? b).isSome ↔ b ∈ ruledBlocks := by
  simp [ofBlock?, all, blocks, ruledBlocks, List.find?_isSome]
  omega

/-- No block id has two rules. -/
theorem ofBlock?_of_mem {r : Rule} {b : Nat} (h : b ∈ r.blocks) : ofBlock? b = some r := by
  have hall : ∀ r ∈ all, ∀ b ∈ r.blocks, ofBlock? b = some r := by decide
  exact hall r r.mem_all b h

end Rule

/-! ## what a rule sees and answers -/

/-- A chunk as a rule sees it.  Cells of sections that are absent are air. -/
structure View where
  block : ColumnCell → BlockState
  /-- the block entity in a cell -/
  record? : ColumnCell → Option Tag
  /-- The chunk came from the alpha format. -/
  fromAlpha : Bool

/-- What to do for one cell: take its block entity, and write states. -/
structure Edit where
  consumes : Bool
  writes : List (ColumnCell × BlockState)

namespace Edit

def nothing : Edit := ⟨false, []⟩
def write (i : ColumnCell) (s : BlockState) : Edit := ⟨false, [(i, s)]⟩
def consume : Edit := ⟨true, []⟩
def consumeAndWrite (i : ColumnCell) (s : BlockState) : Edit := ⟨true, [(i, s)]⟩

end Edit

/-- what a rule missed -/
inductive Unresolved where
  | noNoteBlockRecord
  | noBedRecord
  | doorAtTop
  | noUpperHalf
  | noFlowerPotRecord
  | noSkullRecord
  | upperHalfAtBottom
  | noDoublePlantBelow
  | noBannerRecord
  deriving DecidableEq, Repr

def Unresolved.message : Unresolved → String
  | .noNoteBlockRecord => "no note block entity"
  | .noBedRecord => "no bed entity"
  | .doorAtTop => "door at the top of the chunk"
  | .noUpperHalf => "no matching upper half"
  | .noFlowerPotRecord => "no flower pot entity"
  | .noSkullRecord => "no skull entity"
  | .upperHalfAtBottom => "upper half at the bottom"
  | .noDoublePlantBelow => "no double plant below"
  | .noBannerRecord => "no banner entity"

end Flattening
