import Flattening.Block.Tags
import Flattening.Report.Malformed
import Flattening.Section.Packed
import Flattening.Section.Palette

/-!
# Flattened sections

The flattened form of a section: its palette, and for each cell an index into it.  The width
of the indices is not stored; it follows from the number of states.

* `get?_toTag_of_ne`   the tag keeps every field but the three that it writes.
-/

namespace Flattening

structure FlatSection where
  y : UInt8
  palette : Array BlockState
  cells : PackedArray

namespace FlatSection

/-- Packs the cells at the width of the palette. -/
def ofCells (y : UInt8) (palette : Palette) (cells : List Nat) : Except Fault FlatSection :=
  match PackedArray.ofList (bitsForPalette palette.size) cells with
  | .ok a => .ok ⟨y, palette.states, a⟩
  | .error e => .error e

/-- The number of a cell is judged first; then its index must be in the palette. -/
def block (s : FlatSection) (i : Nat) : Except Fault BlockState :=
  match s.cells.get i with
  | .error e => .error e
  | .ok k =>
    match s.palette[k]? with
    | some b => .ok b
    | none => .error .outOfBounds

/-! ## tags -/

def y? (t : Tag) : Option UInt8 :=
  match (t.get? "Y").bind Tag.integer? with
  | some n => if 0 ≤ n.toInt ∧ n.toInt < 16 then some (UInt8.ofNat n.toInt.toNat) else none
  | none => none

/-- the palette of a tag; it has at least one state -/
def palette? (t : Tag) : Except Malformed (Array BlockState) :=
  match (t.get? "Palette").bind Tag.list? with
  | none => .error .withoutPalette
  | some l =>
    match l.mapM BlockState.ofTag? with
    | none => .error .invalidPaletteEntry
    | some [] => .error .emptyPalette
    | some states => .ok states.toArray

/-- the words of a tag, as numbers without a sign -/
def words? (t : Tag) : Except Malformed (Array UInt64) :=
  match (t.get? "BlockStates").bind Tag.longArray? with
  | none => .error .withoutBlockStates
  | some a => .ok (a.map Int64.toUInt64)

/-- Every index must be in the palette. -/
def ofTag? (t : Tag) : Except Malformed FlatSection :=
  match y? t with
  | none => .error .sectionYMissing
  | some y =>
    match palette? t with
    | .error e => .error e
    | .ok palette =>
      match words? t with
      | .error e => .error e
      | .ok words =>
        let bits := bitsForPalette palette.size
        match PackedArray.ofWords? bits 4096 words with
        | none => .error (.wrongWordCount words.size bits)
        | some cells =>
          match cells.toList.find? fun k => palette.size ≤ k with
          | some k => .error (.paletteEntryMissing k palette.size)
          | none => .ok ⟨y, palette, cells⟩

def paletteTag (s : FlatSection) : Tag := .list (s.palette.toList.map BlockState.toTag)

def cellsTag (s : FlatSection) : Tag := .longArray (s.cells.words.map UInt64.toInt64)

/-- `Y`, `Palette` and `BlockStates` are written over the other fields of the section. -/
def toTag (s : FlatSection) (fields : Entries String Tag) : Tag :=
  .compound
    (Entries.insert "BlockStates" s.cellsTag
      (Entries.insert "Palette" s.paletteTag
        (Entries.insert "Y" (.byte s.y.toInt8) fields)))

theorem get?_toTag_of_ne {s : FlatSection} {k : String} (h1 : k ≠ "Y") (h2 : k ≠ "Palette")
    (h3 : k ≠ "BlockStates") (fields : Entries String Tag) :
    (s.toTag fields).get? k = Entries.get? k fields := by
  rw [toTag, Tag.get?_compound, Entries.get?_insert_ne h3, Entries.get?_insert_ne h2,
    Entries.get?_insert_ne h1]

end FlatSection

end Flattening
