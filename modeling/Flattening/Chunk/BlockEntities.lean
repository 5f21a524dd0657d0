import Flattening.Report.Event

/-!
# The block entities of a chunk

Block entities are held by the cell that they belong to.  Beside them stands the order in which
cells were filled: a cell comes behind all others whenever a block entity is put into it while it
is empty, and nothing is ever struck out, so a cell that was emptied is still there, and one that
was filled again is there twice.  Records that no cell can be found for are kept aside as strays.

In the end the cells are drained in their order, each at the first place that names it.

* `get?_insert_self`, `get?_insert_ne`   what a cell holds after `insert`;
* `get?_remove_self`, `get?_remove_ne`   and after `remove`;
* `drain_cons_of_some`, `drain_cons_of_none`   how the cells are drained.
-/

namespace Flattening

structure BlockEntities where
  held : Entries ColumnCell Tag
  /-- the cells, each once for every time that it was filled -/
  order : List ColumnCell
  strays : List Tag
  ascending : Entries.Ascending held
  mem_order : ∀ p ∈ held, p.1 ∈ order

namespace BlockEntities

def empty : BlockEntities :=
  ⟨[], [], [], Entries.ascending_nil, fun _ hp => absurd hp List.not_mem_nil⟩

/-! ## cells -/

def get? (b : BlockEntities) (i : ColumnCell) : Option Tag := Entries.get? i b.held

theorem mem_order_of_isSome {b : BlockEntities} {i : ColumnCell} (h : (b.get? i).isSome) :
    i ∈ b.order := by
  obtain ⟨t, ht⟩ := Option.isSome_iff_exists.1 h
  exact b.mem_order (i, t) (Entries.mem_of_get? ht)

/-- the order once a block entity is put into a cell -/
def orderWith (b : BlockEntities) (i : ColumnCell) : List ColumnCell :=
  if (b.get? i).isSome then b.order else b.order ++ [i]

theorem mem_orderWith {b : BlockEntities} {i j : ColumnCell} :
    j ∈ b.orderWith i ↔ j ∈ b.order ∨ j = i := by
  unfold orderWith
  split
  · rename_i h
    refine ⟨Or.inl, ?_⟩
    rintro (hj | rfl)
    · exact hj
    · exact mem_order_of_isSome h
  · rw [List.mem_append, List.mem_singleton]

/-- A block entity that is already there is replaced. -/
def insert (b : BlockEntities) (i : ColumnCell) (t : Tag) : BlockEntities where
  held := Entries.insert i t b.held
  order := b.orderWith i
  strays := b.strays
  ascending := Entries.ascending_insert i t b.ascending
  mem_order p hp := by
    rcases Entries.mem_insert hp with rfl | hp
    · exact mem_orderWith.2 (.inr rfl)
    · exact mem_orderWith.2 (.inl (b.mem_order p hp))

/-- The cell keeps its places in the order. -/
def remove (b : BlockEntities) (i : ColumnCell) : BlockEntities where
  held := Entries.erase i b.held
  order := b.order
  strays := b.strays
  ascending := Entries.ascending_erase i b.ascending
  mem_order p hp := b.mem_order p (Entries.mem_erase.1 hp).1

def addStray (b : BlockEntities) (t : Tag) : BlockEntities := { b with strays := b.strays ++ [t] }

theorem get?_insert_self (b : BlockEntities) (i : ColumnCell) (t : Tag) :
    (b.insert i t).get? i = some t := Entries.get?_insert_self i t b.held

theorem get?_insert_ne {i j : ColumnCell} (h : j ≠ i) (b : BlockEntities) (t : Tag) :
    (b.insert i t).get? j = b.get? j := Entries.get?_insert_ne h t b.held

theorem get?_remove_self (b : BlockEntities) (i : ColumnCell) : (b.remove i).get? i = none :=
  Entries.get?_erase_self i b.held

theorem get?_remove_ne {i j : ColumnCell} (h : j ≠ i) (b : BlockEntities) :
    (b.remove i).get? j = b.get? j := Entries.get?_erase_ne h b.held

/-! ## all of them -/

/-- number of block entities held, the strays included -/
def size (b : BlockEntities) : Nat := b.held.length + b.strays.length

/-- what is found when the cells are emptied one after the other -/
def drain : List ColumnCell → Entries ColumnCell Tag → List Tag
  | [], _ => []
  | i :: r, m =>
    match Entries.get? i m with
    | some t => t :: drain r (Entries.erase i m)
    | none => drain r m

theorem drain_nil (m : Entries ColumnCell Tag) : drain [] m = [] := rfl

theorem drain_cons_of_some {i : ColumnCell} {m : Entries ColumnCell Tag} {t : Tag}
    (h : Entries.get? i m = some t) (r : List ColumnCell) :
    drain (i :: r) m = t :: drain r (Entries.erase i m) := by
  rw [drain, h]

theorem drain_cons_of_none {i : ColumnCell} {m : Entries ColumnCell Tag}
    (h : Entries.get? i m = none) (r : List ColumnCell) : drain (i :: r) m = drain r m := by
  rw [drain, h]

/-- the block entities in the order of their cells, then the strays -/
def records (b : BlockEntities) : List Tag := drain b.order b.held ++ b.strays

/-! ## reading a list of records -/

/-- the world coordinates of a record, each cut to 32 bits -/
def coordinates? (t : Tag) : Option (Int32 × Int32 × Int32) := do
  let x ← (← t.get? "x").int32?
  let y ← (← t.get? "y").int32?
  let z ← (← t.get? "z").int32?
  return (x, y, z)

variable {ε : Type}

def insertReporting (b : BlockEntities) (i : ColumnCell) (t : Tag) : Attempt ε BlockEntities := do
  if (b.get? i).isSome then report (.duplicateBlockEntity i)
  return b.insert i t

/-- The cell follows from the coordinates; without them, or with a height that no chunk has,
the record is a stray. -/
def addRecord (chunkX chunkZ : Int32) (b : BlockEntities) (t : Tag) :
    Attempt Malformed BlockEntities := do
  if t.entries?.isNone then throw .blockEntityNotCompound
  match coordinates? t with
  | none => do
    report .blockEntityUnplaced
    return b.addStray t
  | some (x, y, z) =>
    match ColumnCell.ofWorld? chunkX chunkZ x y z with
    | none => do
      report (.blockEntityOutside x y z)
      return b.addStray t
    | some i => b.insertReporting i t

def ofRecords (chunkX chunkZ : Int32) (records : List Tag) : Attempt Malformed BlockEntities :=
  records.foldlM (addRecord chunkX chunkZ) empty

end BlockEntities

end Flattening
