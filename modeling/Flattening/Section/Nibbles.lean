import Flattening.Geometry.Cell
import Flattening.Report.Fault
import Flattening.Report.Malformed

/-!
# Nibble layers

A layer of four bits for each cell of a section lies in 2048 bytes: cell `c` in byte `c / 2`,
an even cell in the low half and an odd one in the high half.  A layer that is absent reads
as zero.

* `get_absent`, `get_even`, `get_odd`   what a cell reads;
* `get_lt`                              it is below sixteen.
-/

namespace Flattening

structure Nibbles where
  bytes : Option (Vector UInt8 2048)

namespace Nibbles

def absent : Nibbles := ⟨none⟩

/-- A layer that is present must have all its bytes. -/
def ofBytes? (name : String) (bytes : Option (Array Int8)) : Except Malformed Nibbles :=
  match bytes with
  | none => .ok absent
  | some a =>
    if h : a.size = 2048 then .ok ⟨some ⟨a.map Int8.toUInt8, by simpa using h⟩⟩
    else .error (.wrongLength name 2048 a.size)

def isPresent (n : Nibbles) : Bool := n.bytes.isSome

/-- the low or the high half of a byte -/
def half (b : UInt8) (high : Bool) : Nat := if high then b.toNat / 16 else b.toNat % 16

def get (n : Nibbles) (c : Cell) : Nat :=
  match n.bytes with
  | none => 0
  | some v => half (v.get ⟨c.val / 2, by omega⟩) (c.val % 2 == 1)

/-- `get` for a number that may be no cell; only a layer that is present minds. -/
def at? (n : Nibbles) (i : Nat) : Except Fault Nat :=
  if h : i < 4096 then .ok (n.get ⟨i, h⟩)
  else if n.isPresent then .error .outOfBounds else .ok 0

theorem get_absent (c : Cell) : absent.get c = 0 := rfl

theorem get_even {v : Vector UInt8 2048} {c : Cell} (h : c.val % 2 = 0) :
    get ⟨some v⟩ c = (v.get ⟨c.val / 2, by omega⟩).toNat % 16 := by
  simp [get, half, h]

theorem get_odd {v : Vector UInt8 2048} {c : Cell} (h : c.val % 2 = 1) :
    get ⟨some v⟩ c = (v.get ⟨c.val / 2, by omega⟩).toNat / 16 := by
  simp [get, half, h]

theorem half_lt (b : UInt8) (high : Bool) : half b high < 16 := by
  have := b.toNat_lt
  unfold half
  split <;> omega

theorem get_lt (n : Nibbles) (c : Cell) : n.get c < 16 := by
  unfold get
  split
  · decide
  · exact half_lt _ _

end Nibbles

end Flattening
