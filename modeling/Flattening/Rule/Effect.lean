import Flattening.Rule.Plan

/-!
# Rules at work

A `CellStore` is anything that can be seen as a chunk and changed cell by cell.  A rule works on it
one operation after the other: it takes a block entity, looks at cells, writes states, and may give
up where it misses something.  What it has done by then stays done.

* `look_bind`, `take_bind_of_some`, `take_bind_of_none`   how a rule goes on after an operation;
* `act_eq_carryOut`   a rule does what it plans from the view of the store it finds, or gives up
  before it has changed anything.
-/

namespace Flattening

class CellStore (σ : Type) where
  block : σ → ColumnCell → BlockState
  record? : σ → ColumnCell → Option Tag
  fromAlpha : σ → Bool
  /-- A store may ignore a state written to a cell that it does not have. -/
  setBlock : σ → ColumnCell → BlockState → σ
  /-- takes the block entity out of a cell -/
  consume : σ → ColumnCell → σ
  block_consume : ∀ s i, block (consume s i) = block s

namespace CellStore

variable {σ : Type} [CellStore σ]

def view (s : σ) : View := ⟨block s, record? s, fromAlpha s⟩

theorem block_view (s : σ) : (view s).block = block s := rfl

theorem record?_view (s : σ) : (view s).record? = record? s := rfl

def perform (s : σ) (i : ColumnCell) (e : Edit) : σ :=
  e.writes.foldl (fun s w => setBlock s w.1 w.2) (if e.consumes then consume s i else s)

/-- what a plan comes to -/
def carryOut (s : σ) (i : ColumnCell) : Except Unresolved Edit → Except Unresolved Unit × σ
  | .ok e => (.ok (), perform s i e)
  | .error u => (.error u, s)

end CellStore

/-! ## operations -/

/-- operations on a store one after the other, up to the first that gives up -/
abbrev Effect (σ : Type) := ExceptT Unresolved (StateM σ)

namespace Effect

variable {σ α : Type} [CellStore σ]

def look (i : ColumnCell) : Effect σ BlockState := return CellStore.block (← get) i

def write (i : ColumnCell) (b : BlockState) : Effect σ Unit :=
  modify fun s => CellStore.setBlock s i b

/-- Takes the block entity of a cell; there must be one. -/
def take (i : ColumnCell) (missing : Unresolved) : Effect σ Tag := do
  match CellStore.record? (← get) i with
  | none => throw missing
  | some r =>
    modify fun s => CellStore.consume s i
    return r

/-- whether the chunk came from the alpha format -/
def alpha : Effect σ Bool := return CellStore.fromAlpha (← get)

theorem look_bind (i : ColumnCell) (f : BlockState → Effect σ α) (s : σ) :
    (look i >>= f) s = f (CellStore.block s i) s := rfl

theorem alpha_bind (f : Bool → Effect σ α) (s : σ) :
    (alpha >>= f) s = f (CellStore.fromAlpha s) s := rfl

theorem take_bind_of_none {s : σ} {i : ColumnCell} (h : CellStore.record? s i = none)
    (missing : Unresolved) (f : Tag → Effect σ α) :
    (take i missing >>= f) s = (.error missing, s) := by
  show ExceptT.bindCont f _ _ = _
  rw [h]
  rfl

theorem take_bind_of_some {s : σ} {i : ColumnCell} {r : Tag} (h : CellStore.record? s i = some r)
    (missing : Unresolved) (f : Tag → Effect σ α) :
    (take i missing >>= f) s = f r (CellStore.consume s i) := by
  show ExceptT.bindCont f _ _ = _
  rw [h]
  rfl

end Effect

/-! ## rules -/

namespace Rule

variable {σ : Type} [CellStore σ]

open Effect

def actSnowyGround (i : ColumnCell) : Effect σ Unit := do
  let s ← look i
  if ["minecraft:grass_block", "minecraft:podzol", "minecraft:mycelium"].contains s.name then
    match i.above? with
    | none => return
    | some j =>
      let above ← look j
      if ["minecraft:snow", "minecraft:snow_block"].contains above.name then
        write i (s.withProperty "snowy" "true")

def actDoor (i : ColumnCell) : Effect σ Unit := do
  let lower ← look i
  if lower.nameEndsWith "_door" && lower.property? "half" == some "lower" then
    match i.above? with
    | none => throw .doorAtTop
    | some j =>
      let upper ← look j
      if upper.name = lower.name then
        let fromAlpha ← alpha
        let hinge := if fromAlpha then "left" else upper.propertyD "hinge" "left"
        let powered := if fromAlpha then "false" else upper.propertyD "powered" "false"
        let facing := lower.propertyD "facing" "east"
        let opened := lower.propertyD "open" "false"
        write i (doorHalf lower.name facing "lower" hinge opened powered)
        write j (doorHalf lower.name facing "upper" hinge opened powered)
      else throw .noUpperHalf

def actPumpkin (i : ColumnCell) : Effect σ Unit := do
  let s ← look i
  if s.name = "minecraft:carved_pumpkin" then
    match i.below? with
    | none => return
    | some j =>
      let below ← look j
      if ["minecraft:grass_block", "minecraft:dirt"].contains below.name then
        write i (.plain "minecraft:pumpkin")

def actDoublePlant (i : ColumnCell) : Effect σ Unit := do
  let s ← look i
  if s.property? "half" == some "upper" then
    match i.below? with
    | none => throw .upperHalfAtBottom
    | some j =>
      let lower ← look j
      if doublePlants.contains lower.name then
        write i (.ofPairs lower.name [("half", "upper")])
      else throw .noDoublePlantBelow

/-- The block entity is taken before anything is looked at. -/
def actFromRecord (missing : Unresolved) (state? : BlockState → Tag → Option BlockState)
    (i : ColumnCell) : Effect σ Unit := do
  let r ← take i missing
  let s ← look i
  match state? s r with
  | none => return
  | some b => write i b

/-- what a rule does to a store for one cell -/
def act : Rule → ColumnCell → Effect σ Unit
  | .snowyGround => actSnowyGround
  | .noteBlock => actFromRecord .noNoteBlockRecord fun s r => some (noteBlockState s r)
  | .bed => actFromRecord .noBedRecord bedState?
  | .door => actDoor
  | .pumpkin => actPumpkin
  | .flowerPot => actFromRecord .noFlowerPotRecord fun _ r => some (flowerPotState r)
  | .skull => actFromRecord .noSkullRecord fun s r => some (skullState s r)
  | .doublePlant => actDoublePlant
  | .banner => actFromRecord .noBannerRecord bannerState?

/-! ## plans -/

section

variable (s : σ) (i : ColumnCell)

theorem actSnowyGround_eq :
    actSnowyGround i s = CellStore.carryOut s i (planSnowyGround (CellStore.view s) i) := by
  rw [actSnowyGround, look_bind, planSnowyGround, ← CellStore.block_view]
  split
  · cases i.above? with
    | none => rfl
    | some j =>
      dsimp only
      rw [look_bind, ← CellStore.block_view]
      split
      · rfl
      · rfl
  · rfl

theorem actDoor_eq :
    actDoor i s = CellStore.carryOut s i (planDoor (CellStore.view s) i) := by
  rw [actDoor, look_bind, planDoor, ← CellStore.block_view]
  split
  · cases i.above? with
    | none => rfl
    | some j =>
      dsimp only
      rw [look_bind, ← CellStore.block_view]
      split
      · rw [alpha_bind]
        rfl
      · rfl
  · rfl

theorem actPumpkin_eq :
    actPumpkin i s = CellStore.carryOut s i (planPumpkin (CellStore.view s) i) := by
  rw [actPumpkin, look_bind, planPumpkin, ← CellStore.block_view]
  split
  · cases i.below? with
    | none => rfl
    | some j =>
      dsimp only
      rw [look_bind, ← CellStore.block_view]
      split
      · rfl
      · rfl
  · rfl

theorem actDoublePlant_eq :
    actDoublePlant i s = CellStore.carryOut s i (planDoublePlant (CellStore.view s) i) := by
  rw [actDoublePlant, look_bind, planDoublePlant, ← CellStore.block_view]
  split
  · cases i.below? with
    | none => rfl
    | some j =>
      dsimp only
      rw [look_bind, ← CellStore.block_view]
      split
      · rfl
      · rfl
  · rfl

/-- The state of the cell is the same after its block entity was taken. -/
theorem actFromRecord_eq (missing : Unresolved) (state? : BlockState → Tag → Option BlockState) :
    actFromRecord missing state? i s =
      CellStore.carryOut s i (fromRecord missing state? (CellStore.view s) i) := by
  rw [actFromRecord, fromRecord]
  rw [CellStore.block_view, CellStore.record?_view]
  cases h : CellStore.record? s i with
  | none =>
    rw [take_bind_of_none h]
    rfl
  | some r =>
    rw [take_bind_of_some h, look_bind, CellStore.block_consume]
    dsimp only
    cases state? (CellStore.block s i) r with
    | none => rfl
    | some b => rfl

/-- **A rule does what it plans from the view, or gives up and leaves the store as it found it.** -/
theorem act_eq_carryOut (r : Rule) :
    r.act i s = CellStore.carryOut s i (r.plan (CellStore.view s) i) := by
  cases r with
  | noteBlock => exact actFromRecord_eq s i .noNoteBlockRecord fun s r => some (noteBlockState s r)
  | bed => exact actFromRecord_eq s i .noBedRecord bedState?
  | flowerPot => exact actFromRecord_eq s i .noFlowerPotRecord fun _ r => some (flowerPotState r)
  | skull => exact actFromRecord_eq s i .noSkullRecord fun s r => some (skullState s r)
  | banner => exact actFromRecord_eq s i .noBannerRecord bannerState?
  | snowyGround => exact actSnowyGround_eq s i
  | door => exact actDoor_eq s i
  | pumpkin => exact actPumpkin_eq s i
  | doublePlant => exact actDoublePlant_eq s i

end

end Rule

end Flattening
