/-!
# Cells of a section and of a chunk

A section is a cube of 16 by 16 by 16 cells, numbered along `x`, then `z`, then `y`.  A chunk
is a column of 16 sections; its cells are numbered section by section, which is the numbering
along `x`, `z` and the height.

* `Cell.x_of`, `Cell.y_of`, `Cell.z_of`       a cell has the coordinates it was made from;
* `ColumnCell.sectionY_of`, `ColumnCell.cell_of`   so has a cell of a chunk;
* `ColumnCell.of_sectionY_cell`               and nothing else is in it;
* `ColumnCell.next?_up`, `ColumnCell.next?_down`   the cells above and below.
-/

namespace Flattening

/-! ## cells of a section -/

abbrev Cell := Fin 4096

namespace Cell

/-- Coordinates are taken by their low four bits. -/
def of (x y z : Nat) : Cell := ⟨y % 16 * 256 + z % 16 * 16 + x % 16, by omega⟩

def x (c : Cell) : Nat := c.val % 16
def y (c : Cell) : Nat := c.val / 256
def z (c : Cell) : Nat := c.val / 16 % 16

theorem x_of (x y z : Nat) : (of x y z).x = x % 16 := by simp only [Cell.x, of]; omega
theorem y_of (x y z : Nat) : (of x y z).y = y % 16 := by simp only [Cell.y, of]; omega
theorem z_of (x y z : Nat) : (of x y z).z = z % 16 := by simp only [Cell.z, of]; omega

theorem of_coordinates (c : Cell) : of c.x c.y c.z = c := by
  apply Fin.ext
  simp only [of, x, y, z]
  omega

/-- all cells in their order -/
def all : List Cell := List.finRange 4096

theorem mem_all (c : Cell) : c ∈ all := List.mem_finRange c

end Cell

/-! ## cells of a chunk -/

abbrev ColumnCell := Fin 65536

namespace ColumnCell

def of (s : Fin 16) (c : Cell) : ColumnCell := ⟨s.val * 4096 + c.val, by omega⟩

/-- number of the section -/
def sectionY (i : ColumnCell) : Fin 16 := ⟨i.val / 4096, by omega⟩

/-- the cell inside its section -/
def cell (i : ColumnCell) : Cell := ⟨i.val % 4096, by omega⟩

theorem sectionY_of (s : Fin 16) (c : Cell) : (of s c).sectionY = s := by
  apply Fin.ext; simp only [sectionY, of]; omega

theorem cell_of (s : Fin 16) (c : Cell) : (of s c).cell = c := by
  apply Fin.ext; simp only [cell, of]; omega

theorem of_sectionY_cell (i : ColumnCell) : of i.sectionY i.cell = i := by
  apply Fin.ext; simp only [sectionY, cell, of]; omega

/-- Of the section number the low four bits count, of the cell the low twelve. -/
def ofParts (s c : Nat) : ColumnCell := of ⟨s % 16, by omega⟩ ⟨c % 4096, by omega⟩

/-- coordinate of a block within its chunk; both wrap at 32 bits -/
def withinChunk (v chunk : Int32) : Nat := ((v - chunk * 16).toInt % 16).toNat

theorem withinChunk_lt (v chunk : Int32) : withinChunk v chunk < 16 := by
  simp only [withinChunk]; omega

/-- the cell of a block of the world, if its height is one that a chunk has -/
def ofWorld? (chunkX chunkZ x y z : Int32) : Option ColumnCell :=
  if h : 0 ≤ y.toInt ∧ y.toInt < 256 then
    have hx := withinChunk_lt x chunkX
    have hz := withinChunk_lt z chunkZ
    some ⟨y.toInt.toNat * 256 + withinChunk z chunkZ * 16 + withinChunk x chunkX, by omega⟩
  else none

end ColumnCell

/-! ## neighbours -/

inductive Direction where
  | down | up | north | south | west | east
  deriving DecidableEq, Repr

/-- the unit step along `x`, `y` and `z` -/
def Direction.step : Direction → Int × Int × Int
  | .down => (0, -1, 0)
  | .up => (0, 1, 0)
  | .north => (0, 0, -1)
  | .south => (0, 0, 1)
  | .west => (-1, 0, 0)
  | .east => (1, 0, 0)

namespace ColumnCell

/-- the neighbouring cell, unless it lies outside the chunk -/
def next? (i : ColumnCell) (d : Direction) : Option ColumnCell :=
  match d with
  | .down => if 256 ≤ i.val then some ⟨i.val - 256, by omega⟩ else none
  | .up => if h : i.val + 256 < 65536 then some ⟨i.val + 256, h⟩ else none
  | .north => if 16 ≤ i.val % 256 then some ⟨i.val - 16, by omega⟩ else none
  | .south => if h : i.val % 256 < 240 then some ⟨i.val + 16, by omega⟩ else none
  | .west => if 0 < i.val % 16 then some ⟨i.val - 1, by omega⟩ else none
  | .east => if h : i.val % 16 < 15 then some ⟨i.val + 1, by omega⟩ else none

def above? (i : ColumnCell) : Option ColumnCell := i.next? .up
def below? (i : ColumnCell) : Option ColumnCell := i.next? .down

theorem next?_up {i j : ColumnCell} : i.above? = some j ↔ j.val = i.val + 256 := by
  simp only [above?, next?]
  split
  · simp only [Option.some.injEq, Fin.ext_iff]; omega
  · simp only [reduceCtorEq, false_iff]; omega

theorem next?_down {i j : ColumnCell} : i.below? = some j ↔ i.val = j.val + 256 := by
  simp only [below?, next?]
  split
  · simp only [Option.some.injEq, Fin.ext_iff]; omega
  · simp only [reduceCtorEq, false_iff]; omega

theorem above?_eq_some_iff {i j : ColumnCell} : i.above? = some j ↔ j.below? = some i := by
  rw [next?_up, next?_down]

end ColumnCell

end Flattening
