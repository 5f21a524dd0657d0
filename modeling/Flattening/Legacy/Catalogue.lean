import Flattening.Block.State
import Flattening.Legacy.IdSet
import Flattening.Legacy.RowsA
import Flattening.Legacy.RowsB
import Flattening.Legacy.RowsC
import Flattening.Legacy.RowsD
import Flattening.Legacy.RowsE
import Flattening.Legacy.RowsF
import Flattening.Legacy.RowsG
import Flattening.Legacy.RowsH
import Flattening.Legacy.RowsI
import Flattening.Legacy.RowsJ

/-!
# The catalogue: flattened states of the legacy numbers

Every legacy number has a state.  A data value that its block never used counts as data value
zero, and a block that is not in the catalogue is air.

* `state_of_row`     the state of a listed data value;
* `state_of_no_row`  a block id without a row is air.
-/

namespace Flattening.Legacy

def catalogue : List Row :=
  rowsA ++ rowsB ++ rowsC ++ rowsD ++ rowsE ++ rowsF ++ rowsG ++ rowsH ++ rowsI ++ rowsJ

def row? (block : Nat) : Option Row := catalogue.find? fun r => r.id == block

/-- the old name of a block id -/
def blockName? (block : Nat) : Option String := (row? block).map Row.name

def Row.state? (r : Row) (data : Nat) : Option BlockState :=
  (Entries.get? data r.states).map fun s => BlockState.ofPairs s.1 s.2

/-- the state of a block by its number alone, whatever lies around it -/
def state (l : LegacyId) : BlockState :=
  match row? l.block with
  | none => .air
  | some r => ((r.state? l.data).or (r.state? 0)).getD .air

theorem state_of_no_row {l : LegacyId} (h : row? l.block = none) : state l = .air := by
  simp [state, h]

theorem state_of_row {l : LegacyId} {r : Row} {s : BlockState} (hr : row? l.block = some r)
    (hs : r.state? l.data = some s) : state l = s := by
  simp [state, hr, hs]

/-! ## blocks whose shape follows their neighbours -/

/-- chests, redstone wire, stairs, fences, panes, walls, vines, gates, tripwire, chorus
plants, note blocks and beds -/
def sensitiveBlocks : List Nat :=
  [54, 146, 25, 26, 51, 53, 67, 108, 109, 114, 128, 134, 135, 136, 156, 163, 164, 180, 203, 55,
   85, 113, 188, 189, 190, 191, 192, 131, 132, 139, 199, 101, 102, 160, 106, 107, 183, 184, 185,
   186, 187]

def sensitiveSet : IdSet := .ofIds sensitiveBlocks

def isSensitive (block : Nat) : Bool := sensitiveSet.contains block

end Flattening.Legacy
