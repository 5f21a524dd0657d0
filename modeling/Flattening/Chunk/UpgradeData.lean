import Flattening.Geometry.Sides
import Flattening.Tag.Basic

/-!
# Upgrade data: what is left for the pass over the chunk's borders

The sides that sensitive cells touch, and for each section the sensitive cells that touch no
side.  In a tag the number of a section is the text of a key.

* `byteOfText?_of_long`   a text of value 256 or more is no section number.
-/

namespace Flattening

structure UpgradeData where
  sides : Sides
  /-- cells by number of the section -/
  indices : Entries UInt8 (List UInt16)
  ascending : Entries.Ascending indices
  deriving DecidableEq

namespace UpgradeData

/-- of two lists for one section the later counts -/
def ofLists (sides : Sides) (lists : List (UInt8 × List UInt16)) : UpgradeData :=
  ⟨sides, Entries.ofList lists, Entries.ascending_ofList lists⟩

/-! ## decimal numbers -/

def digitsValue (cs : List Char) : Nat := cs.foldl (fun n c => 10 * n + (c.toNat - 48)) 0

/-- digits, with leading zeros or a plus sign if there is one, of a value below 256 -/
def byteOfText? (s : String) : Option UInt8 :=
  let digits := match s.toList with
    | '+' :: r => r
    | cs => cs
  if !digits.isEmpty && digits.all Char.isDigit && digitsValue digits < 256 then
    some (UInt8.ofNat (digitsValue digits))
  else none

theorem byteOfText?_of_long {s : String} (hs : s.toList.head? ≠ some '+')
    (h : 256 ≤ digitsValue s.toList) : byteOfText? s = none := by
  unfold byteOfText?
  split
  · rename_i e; simp [e] at hs
  · simp; omega

/-! ## tags -/

def cellsTag (cells : List UInt16) : Tag :=
  .intArray (cells.map fun c => Int32.ofNat c.toNat).toArray

def indicesTag (d : UpgradeData) : Tag :=
  .compound (Entries.ofList (d.indices.map fun p => (toString p.1.toNat, cellsTag p.2)))

def toTag (d : UpgradeData) : Tag :=
  (Tag.emptyCompound.insert "Sides" (.byte d.sides.bits.toInt8)).insert "Indices" d.indicesTag

def cell? (n : Int32) : Option UInt16 :=
  if 0 ≤ n.toInt ∧ n.toInt < 65536 then some (UInt16.ofNat n.toInt.toNat) else none

def cells? (t : Tag) : Option (List UInt16) :=
  match t.intArray? with
  | some a => a.toList.mapM cell?
  | none => none

def entry? (p : String × Tag) : Option (UInt8 × List UInt16) := do
  let cells ← cells? p.2
  let y ← byteOfText? p.1
  return (y, cells)

/-- Of the sides the low eight bits count. -/
def ofTag? (t : Tag) : Option UpgradeData := do
  let sides ← (← t.get? "Sides").integer?
  let indices ← (← t.get? "Indices").entries?
  let lists ← indices.mapM entry?
  return ofLists ⟨sides.toInt8.toUInt8⟩ lists

end UpgradeData

end Flattening
