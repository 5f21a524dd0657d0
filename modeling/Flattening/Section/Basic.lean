import Flattening.Geometry.Sides
import Flattening.Legacy.Catalogue
import Flattening.Rule.Basic
import Flattening.Section.Nibbles
import Flattening.Section.Palette
import Flattening.Table

/-!
# Sections on their way from legacy arrays to a palette

A legacy section has a byte for each cell and two nibble layers.  Decoding goes through the cells
once: each takes the state of its legacy number, and the states are collected in a palette that
starts with air; on the way it is noted which cells wait for a rule and which look over the chunk's
border.  After that the section is a store of cells.

* `LegacyLayers.look`              what is done for one cell;
* `DecodedCells.block_set_self`, `DecodedCells.block_set_ne`   reading after writing;
* `upgrade_upgrade`                a second upgrade changes nothing and touches no side.
-/

namespace Flattening

/-! ## legacy arrays -/

structure LegacyLayers where
  ids : Vector UInt8 4096
  data : Nibbles
  add : Nibbles

namespace LegacyLayers

def legacyId (l : LegacyLayers) (c : Cell) : LegacyId :=
  .decode (l.ids.get c).toNat (l.data.get c) (l.add.get c)

def block (l : LegacyLayers) (c : Cell) : Nat := (l.legacyId c).block

def state (l : LegacyLayers) (c : Cell) : BlockState := Legacy.state (l.legacyId c)

end LegacyLayers

/-! ## decoded cells -/

structure DecodedCells where
  palette : Palette
  cells : Vector Nat 4096
  /-- cells that wait for a rule, by block id -/
  pending : Entries Nat (Array Cell)
  /-- sensitive cells that touch no side of the chunk -/
  deferred : Array Cell
  cells_lt : ∀ c : Cell, cells.get c < palette.size

namespace DecodedCells

/-- the cells that wait, as lists -/
def waiting (d : DecodedCells) : List (Nat × List Cell) :=
  d.pending.map fun p => (p.1, p.2.toList)

def block (d : DecodedCells) (c : Cell) : BlockState :=
  have h : d.cells.get c < d.palette.states.size := d.cells_lt c
  d.palette.states[d.cells.get c]

theorem get?_block (d : DecodedCells) (c : Cell) :
    d.palette.get? (d.cells.get c) = some (d.block c) := by
  have h : d.cells.get c < d.palette.states.size := d.cells_lt c
  rw [Palette.get?, Array.getElem?_eq_getElem h]
  rfl

theorem block_eq_iff (d : DecodedCells) (c : Cell) (s : BlockState) :
    d.block c = s ↔ d.palette.get? (d.cells.get c) = some s := by
  rw [get?_block, Option.some.injEq]

/-- before the first cell is decoded -/
def start : DecodedCells where
  palette := .withAir
  cells := Vector.replicate 4096 0
  pending := []
  deferred := #[]
  cells_lt := fun c => by
    rw [Table.get_replicate]
    exact Palette.size_withAir_pos

/-- Puts a cell behind those that wait under its block id. -/
def enqueue (d : DecodedCells) (block : Nat) (c : Cell) : DecodedCells :=
  { d with
    pending := Entries.insert block (((Entries.get? block d.pending).getD #[]).push c) d.pending }

def defer (d : DecodedCells) (c : Cell) : DecodedCells :=
  { d with deferred := d.deferred.push c }

/-- The palette grows if it has to. -/
def setBlock (d : DecodedCells) (c : Cell) (s : BlockState) : DecodedCells :=
  let palette := d.palette.insert s
  { palette := palette
    cells := d.cells.set c.val (palette.index s) c.isLt
    pending := d.pending
    deferred := d.deferred
    cells_lt := fun e => by
      by_cases h : e = c
      · rw [h, Table.get_set_self]
        exact Palette.index_lt_size (Palette.mem_insert_self d.palette s)
      · rw [Table.get_set_ne _ h]
        exact Nat.lt_of_lt_of_le (d.cells_lt e) (Palette.size_le_insert d.palette s) }

theorem cells_set_self (d : DecodedCells) (c : Cell) (s : BlockState) :
    (d.setBlock c s).cells.get c = (d.palette.insert s).index s :=
  Table.get_set_self d.cells c _

theorem cells_set_ne {c e : Cell} (h : e ≠ c) (d : DecodedCells) (s : BlockState) :
    (d.setBlock c s).cells.get e = d.cells.get e :=
  Table.get_set_ne d.cells h _

theorem block_set_self (d : DecodedCells) (c : Cell) (s : BlockState) :
    (d.setBlock c s).block c = s := by
  rw [block_eq_iff, cells_set_self]
  exact Palette.get?_index (Palette.mem_insert_self d.palette s)

theorem block_set_ne {c e : Cell} (h : e ≠ c) (d : DecodedCells) (s : BlockState) :
    (d.setBlock c s).block e = d.block e := by
  rw [block_eq_iff, cells_set_ne h]
  show (d.palette.insert s).get? _ = _
  rw [Palette.get?_insert s (d.cells_lt e), get?_block]

/-- Enters a state into the palette. -/
def learn (d : DecodedCells) (s : BlockState) : DecodedCells :=
  { d with
    palette := d.palette.insert s
    cells_lt := fun c => Nat.lt_of_lt_of_le (d.cells_lt c) (Palette.size_le_insert d.palette s) }

theorem block_learn (d : DecodedCells) (s : BlockState) (c : Cell) :
    (d.learn s).block c = d.block c := by
  rw [block_eq_iff]
  show (d.palette.insert s).get? (d.cells.get c) = _
  rw [Palette.get?_insert s (d.cells_lt c), get?_block]

end DecodedCells

/-! ## decoding -/

namespace LegacyLayers

/-- A cell waits if its block id has a rule. -/
def queue (l : LegacyLayers) (c : Cell) (d : DecodedCells) : DecodedCells :=
  if (Rule.ofBlock? (l.block c)).isSome then d.enqueue (l.block c) c else d

/-- A cell whose shape follows its neighbours touches a side, or it is left for later. -/
def border (l : LegacyLayers) (c : Cell) (p : DecodedCells × Sides) : DecodedCells × Sides :=
  if Legacy.isSensitive (l.block c) then
    if (Sides.ofEdge c.x c.z).isEmpty then (p.1.defer c, p.2)
    else (p.1, p.2 ∪ Sides.ofEdge c.x c.z)
  else p

/-- what is done for one cell -/
def look (l : LegacyLayers) (p : DecodedCells × Sides) (c : Cell) : DecodedCells × Sides :=
  let q := l.border c (l.queue c p.1, p.2)
  (q.1.setBlock c (l.state c), q.2)

/-- The palette takes air first and then each state at its first cell. -/
@[irreducible] def scan (l : LegacyLayers) : DecodedCells × Sides :=
  Cell.all.foldl l.look (.start, ∅)

end LegacyLayers

def DecodedCells.decode (l : LegacyLayers) : DecodedCells := l.scan.1

/-! ## sections -/

inductive SectionContent where
  /-- no block data -/
  | bare
  | legacy (l : LegacyLayers)
  | decoded (d : DecodedCells)

structure Section where
  y : Fin 16
  /-- the section's compound, without the legacy arrays if it had them -/
  fields : Entries String Tag
  content : SectionContent

namespace Section

/-! ## reading -/

def y? (t : Tag) : Except Malformed (Fin 16) :=
  match t.get? "Y" with
  | none => .error .sectionWithoutY
  | some v =>
    match v.integer? with
    | none => .error .sectionYNotInteger
    | some n =>
      if h : 0 ≤ n.toInt ∧ n.toInt < 16 then .ok ⟨n.toInt.toNat, by omega⟩
      else .error (.sectionYOutside n)

/-- a byte array that may be absent -/
def bytes? (m : Entries String Tag) (key : String) : Except Malformed (Option (Array Int8)) :=
  match Entries.get? key m with
  | none => .ok none
  | some t =>
    match t.byteArray? with
    | none => .error (.notByteArray key)
    | some a => .ok (some a)

def nibbles? (m : Entries String Tag) (key : String) : Except Malformed Nibbles :=
  match bytes? m key with
  | .ok a => Nibbles.ofBytes? key a
  | .error e => .error e

/-- A section without `Blocks` has no layers, whatever else it has. -/
def layers? (m : Entries String Tag) : Except Malformed (Option LegacyLayers) :=
  match bytes? m "Blocks" with
  | .error e => .error e
  | .ok none => .ok none
  | .ok (some a) =>
    if h : a.size = 4096 then
      match nibbles? m "Data" with
      | .error e => .error e
      | .ok data =>
        match nibbles? m "Add" with
        | .error e => .error e
        | .ok add => .ok (some ⟨⟨a.map Int8.toUInt8, by simpa using h⟩, data, add⟩)
    else .error (.wrongLength "Blocks" 4096 a.size)

def withoutArrays (m : Entries String Tag) : Entries String Tag :=
  Entries.erase "Add" (Entries.erase "Data" (Entries.erase "Blocks" m))

def ofTag? (t : Tag) : Except Malformed Section :=
  match t.entries? with
  | none => .error .sectionNotCompound
  | some m =>
    match y? t with
    | .error e => .error e
    | .ok y =>
      match layers? m with
      | .error e => .error e
      | .ok none => .ok ⟨y, m, .bare⟩
      | .ok (some l) => .ok ⟨y, withoutArrays m, .legacy l⟩

/-! ## upgrading -/

def hasBlocks (s : Section) : Bool :=
  match s.content with
  | .bare => false
  | _ => true

/-- Decodes the section if that is still to do; gives the sides that its cells touch. -/
def upgrade (s : Section) : Section × Sides :=
  match s.content with
  | .legacy l =>
    let p := l.scan
    ({ s with content := .decoded p.1 }, p.2)
  | _ => (s, ∅)

def decode (s : Section) : Section := s.upgrade.1

/-- the sides that cells still to be decoded touch -/
def sides (s : Section) : Sides := s.upgrade.2

def decoded? (s : Section) : Option DecodedCells :=
  match s.content with
  | .decoded d => some d
  | _ => none

def palette? (s : Section) : Option Palette := s.decoded?.map (·.palette)

/-- the sensitive cells that touch no side of the chunk -/
def deferred (s : Section) : List Cell :=
  match s.decoded? with
  | some d => d.deferred.toList
  | none => []

/-- Cells are air until the section is decoded, and for good without block data. -/
def block (s : Section) (c : Cell) : BlockState :=
  match s.decoded? with
  | some d => d.block c
  | none => .air

/-- Only decoded sections take a state. -/
def setBlock (s : Section) (c : Cell) (b : BlockState) : Section :=
  match s with
  | ⟨y, fields, .decoded d⟩ => ⟨y, fields, .decoded (d.setBlock c b)⟩
  | s => s

/-- the cells that wait for a rule -/
def pending (s : Section) : List (Nat × List Cell) :=
  match s.decoded? with
  | some d => d.waiting
  | none => []

def clearPending (s : Section) : Section :=
  match s with
  | ⟨y, fields, .decoded d⟩ => ⟨y, fields, .decoded { d with pending := [] }⟩
  | s => s

theorem upgrade_upgrade (s : Section) : s.upgrade.1.upgrade = (s.upgrade.1, ∅) := by
  obtain ⟨y, m, c⟩ := s
  cases c <;> rfl

theorem block_setBlock_self {s : Section} {d : DecodedCells} (h : s.decoded? = some d)
    (c : Cell) (b : BlockState) : (s.setBlock c b).block c = b := by
  obtain ⟨y, m, k⟩ := s
  cases k with
  | decoded d' => exact DecodedCells.block_set_self d' c b
  | bare | legacy l => cases h

theorem block_setBlock_ne {c e : Cell} (h : e ≠ c) (s : Section) (b : BlockState) :
    (s.setBlock c b).block e = s.block e := by
  obtain ⟨y, m, k⟩ := s
  cases k with
  | decoded d => exact DecodedCells.block_set_ne h d b
  | bare | legacy l => rfl

/-! ## numbers that may be no cell -/

/-- Only decoded sections mind. -/
def blockAt? (s : Section) (i : Nat) : Except Fault BlockState :=
  if h : i < 4096 then .ok (s.block ⟨i, h⟩)
  else if s.decoded?.isSome then .error .outOfBounds else .ok .air

/-- Enters a state into the palette of a decoded section. -/
def learn (s : Section) (b : BlockState) : Section :=
  match s with
  | ⟨y, fields, .decoded d⟩ => ⟨y, fields, .decoded (d.learn b)⟩
  | s => s

theorem block_learn (s : Section) (b : BlockState) (c : Cell) :
    (s.learn b).block c = s.block c := by
  obtain ⟨y, m, k⟩ := s
  cases k with
  | decoded d => exact DecodedCells.block_learn d b c
  | bare | legacy l => rfl

/-- The state enters the palette before the number is judged, so it stays there when the
number is no cell. -/
def setBlockAt (s : Section) (i : Nat) (b : BlockState) : Section × Option Fault :=
  if h : i < 4096 then (s.setBlock ⟨i, h⟩ b, none)
  else (s.learn b, if s.decoded?.isSome then some .outOfBounds else none)

end Section

end Flattening
