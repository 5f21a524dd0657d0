import Flattening.Chunk.BlockEntities
import Flattening.Chunk.UpgradeData
import Flattening.Rule.Store
import Flattening.Section.Basic
import Flattening.Section.Flat

/-!
# Chunks: one column of sections being flattened

A chunk is read from its level in two steps.  First every section is decoded by numbers alone;
then the rules run over the cells that wait for them, section by section from below and by
ascending block id.  Writing gives a level with flattened sections, the block entities that are
left, and the upgrade data; all other fields are carried over.

* `runGroups_nil`, `runGroups_cons`    the groups run one after the other;
* `block_setBlock_ne`, `record?_consume_self`   the chunk as a store of cells.
-/

namespace Flattening

structure Chunk where
  x : Int32
  z : Int32
  sides : Sides
  sections : Vector (Option Section) 16
  entities : BlockEntities
  fromAlpha : Bool
  /-- the fields of the level other than `Sections` and `TileEntities` -/
  fields : Entries String Tag
  /-- number of block entities taken by rules -/
  consumed : Nat

namespace Chunk

def section? (c : Chunk) (y : Nat) : Option Section := (c.sections[y]?).join

/-- the sections that are there, from below -/
def kept (c : Chunk) : List Section := c.sections.toList.filterMap id

/-- world coordinates of the north-west corner, wrapping at 32 bits -/
def origin (c : Chunk) : Int32 × Int32 := (c.x * 16, c.z * 16)

/-! ## the chunk as a store of cells -/

def block (c : Chunk) (i : ColumnCell) : BlockState :=
  match c.sections.get i.sectionY with
  | some s => s.block i.cell
  | none => .air

def setBlock (c : Chunk) (i : ColumnCell) (b : BlockState) : Chunk :=
  { c with
    sections := Table.modify c.sections i.sectionY (Option.map fun s => s.setBlock i.cell b) }

/-- A block entity that is taken counts as consumed. -/
def consume (c : Chunk) (i : ColumnCell) : Chunk :=
  let n := if (c.entities.get? i).isSome then 1 else 0
  { c with entities := c.entities.remove i, consumed := c.consumed + n }

instance : CellStore Chunk where
  block := block
  record? c i := c.entities.get? i
  fromAlpha c := c.fromAlpha
  setBlock := setBlock
  consume := consume
  block_consume _ _ := rfl

theorem block_setBlock_ne {i j : ColumnCell} (h : j ≠ i) (c : Chunk) (b : BlockState) :
    (c.setBlock i b).block j = c.block j := by
  unfold block setBlock
  by_cases hy : j.sectionY = i.sectionY
  · have hc : j.cell ≠ i.cell := fun e => h (by
      rw [← ColumnCell.of_sectionY_cell j, ← ColumnCell.of_sectionY_cell i, hy, e])
    rw [hy, Table.get_modify_self]
    cases c.sections.get i.sectionY with
    | none => rfl
    | some s => exact Section.block_setBlock_ne hc s b
  · rw [Table.get_modify_ne _ hy]

theorem record?_consume_self (c : Chunk) (i : ColumnCell) :
    (c.consume i).entities.get? i = none := BlockEntities.get?_remove_self c.entities i

/-! ## the work of the rules -/

/-- cells of one section and one block id that wait for their rule -/
structure Group where
  y : Fin 16
  block : Nat
  cells : List Cell
  deriving DecidableEq

def Group.columnCells (g : Group) : List ColumnCell := g.cells.map (ColumnCell.of g.y)

/-- all groups, from the lowest section up and by ascending block id -/
def groups (c : Chunk) : List Group :=
  c.kept.flatMap fun s => s.pending.map fun p => ⟨s.y, p.1, p.2⟩

variable {σ : Type} [CellStore σ]

def runGroup (p : σ × Array Event) (g : Group) : σ × Array Event :=
  match Rule.ofBlock? g.block with
  | some r => r.apply g.columnCells p.1 p.2
  | none => p

/-- Runs the groups in their order; the events are added to those so far. -/
def runGroups (gs : List Group) (s : σ) (log : Array Event) : σ × Array Event :=
  gs.foldl runGroup (s, log)

theorem runGroups_nil (s : σ) (log : Array Event) : runGroups [] s log = (s, log) := rfl

theorem runGroups_cons (g : Group) (gs : List Group) (s : σ) (log : Array Event) :
    runGroups (g :: gs) s log = runGroups gs (runGroup (s, log) g).1 (runGroup (s, log) g).2 := rfl

def clearPending (c : Chunk) : Chunk :=
  { c with sections := c.sections.map (Option.map Section.clearPending) }

/-! ## reading a level -/

def liftExcept {α : Type} : Except Malformed α → Attempt Malformed α
  | .ok a => pure a
  | .error e => throw e

/-- a coordinate of the chunk, zero if it is absent -/
def coordinate? (level : Tag) (key : String) : Except Malformed Int32 :=
  match level.get? key with
  | none => .ok 0
  | some t =>
    match t.int32? with
    | some n => .ok n
    | none => .error (.notInteger key)

/-- a list, empty if it is absent -/
def list? (level : Tag) (key : String) : Except Malformed (List Tag) :=
  match level.get? key with
  | none => .ok []
  | some t =>
    match t.list? with
    | some l => .ok l
    | none => .error (.notList key)

/-- Puts the sections into their places; of two with one `Y` the later is kept.  `index` is
the number of the first section in its list. -/
def place (x z : Int32) :
    Nat → List Tag → Vector (Option Section) 16 → Attempt Malformed (Vector (Option Section) 16)
  | _, [], out => return out
  | index, t :: r, out => do
    match Section.ofTag? t with
    | .error e =>
      report (.rejectedSection index x z e)
      throw e
    | .ok s =>
      if (out.get s.y).isSome then report (.duplicateSection s.y x z)
      place x z (index + 1) r (out.set s.y.val (some s) s.y.isLt)

/-- Upgrades the sections, each once; gives the sides that they touch together. -/
def upgradeSections (sections : Vector (Option Section) 16) : Vector (Option Section) 16 × Sides :=
  let upgraded := sections.map (Option.map Section.upgrade)
  (upgraded.map (Option.map Prod.fst),
    (upgraded.toList.filterMap id).foldl (fun sides p => sides ∪ p.2) ∅)

/-- the level with its sections decoded and its block entities found -/
def decode (level : Tag) : Attempt Malformed Chunk := do
  let m ← match level.entries? with
    | some m => pure m
    | none => throw .levelNotCompound
  let x ← liftExcept (coordinate? level "xPos")
  let z ← liftExcept (coordinate? level "zPos")
  let fromAlpha := ((level.get? "convertedFromAlphaFormat").bind Tag.bool?).getD false
  let records ← liftExcept (list? level "TileEntities")
  let entities ← BlockEntities.ofRecords x z records
  let tags ← liftExcept (list? level "Sections")
  let placed ← place x z 0 tags (Vector.replicate 16 none)
  let upgraded := upgradeSections placed
  let fields := Entries.erase "TileEntities" (Entries.erase "Sections" m)
  return ⟨x, z, upgraded.2, upgraded.1, entities, fromAlpha, fields, 0⟩

def summary (c : Chunk) : Event :=
  .upgradedChunk c.x c.z (c.kept.countP Section.hasBlocks) c.sides
    ((c.kept.map fun s => s.deferred.length).foldl (· + ·) 0) c.consumed

/-- Runs the rules over all cells that wait for them. -/
def settle (c : Chunk) (log : Array Event) : Chunk × Array Event :=
  runGroups c.groups c.clearPending log

/-- a level with its sections decoded and its rules run -/
def ofLevel (level : Tag) : Attempt Malformed Chunk := do
  let c ← decode level
  let c ← modifyGet c.settle
  report c.summary
  return c

/-! ## writing a level -/

def upgradeData (c : Chunk) : UpgradeData :=
  .ofLists c.sides (c.kept.map fun s =>
    (UInt8.ofNat s.y.val, s.deferred.map fun i => UInt16.ofNat i.val))

/-- A section without block data is written as it was. -/
def sectionTag (s : Section) : Except Fault Tag :=
  match s.decoded? with
  | none => .ok (.compound s.fields)
  | some d =>
    match FlatSection.ofCells (UInt8.ofNat s.y.val) d.palette d.cells.toList with
    | .ok f => .ok (f.toTag s.fields)
    | .error e => .error e

/-- Block entities are written only if some are left. -/
def write (c : Chunk) : Except Fault Tag :=
  match c.kept.mapM sectionTag with
  | .error e => .error e
  | .ok tags =>
    let level := Entries.insert "Sections" (.list tags) c.fields
    let records := c.entities.records
    let level := if records.isEmpty then level
      else Entries.insert "TileEntities" (.list records) level
    .ok (.compound (Entries.insert "UpgradeData" c.upgradeData.toTag level))

end Chunk

end Flattening
