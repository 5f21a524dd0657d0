import Flattening.Geometry.Sides
import Flattening.Report.Malformed
import Flattening.Report.Severity
import Flattening.Rule.Basic
import Flattening.Text.Quoted

/-!
# Events: what an upgrade reports

Everything worth a message is an event.  Its severity and its wording are given here, so that
the upgrade itself deals in events alone.
-/

namespace Flattening

inductive Event where
  /-- two block entities in one cell -/
  | duplicateBlockEntity (cell : ColumnCell)
  | blockEntityOutside (x y z : Int32)
  | blockEntityUnplaced
  | rejectedSection (index : Nat) (chunkX chunkZ : Int32) (cause : Malformed)
  | duplicateSection (y : Fin 16) (chunkX chunkZ : Int32)
  | unresolved (rule : Rule) (cell : ColumnCell) (reason : Unresolved)
  | upgradedChunk (chunkX chunkZ : Int32) (sections : Nat) (sides : Sides)
      (deferredCells consumed : Nat)
  | upgradedFile (input output : String)
  | nothingToDo (input : String)
  | failed (input : String) (failure : Failure)
  deriving DecidableEq

namespace Event

def severity : Event → Severity
  | .duplicateBlockEntity _ => .warning
  | .blockEntityOutside _ _ _ => .warning
  | .blockEntityUnplaced => .warning
  | .rejectedSection _ _ _ _ => .error
  | .duplicateSection _ _ _ => .warning
  | .unresolved _ _ _ => .debug
  | .upgradedChunk _ _ _ _ _ _ => .debug
  | .upgradedFile _ _ => .info
  | .nothingToDo _ => .warning
  | .failed _ _ => .error

/-- `0x` and at least four hexadecimal digits -/
def cellText (i : ColumnCell) : String :=
  let digits := Text.hex i.val
  "0x" ++ String.ofList (List.replicate (4 - digits.length) '0') ++ digits

def chunkText (x z : Int32) : String := s!"({x.toInt}, {z.toInt})"

def message : Event → String
  | .duplicateBlockEntity i =>
    "Duplicate block entity at local position " ++ cellText i ++ ", keeping the last one"
  | .blockEntityOutside x y z =>
    s!"Block entity at ({x.toInt}, {y.toInt}, {z.toInt}) lies outside the chunk height, " ++
      "keeping it unindexed"
  | .blockEntityUnplaced => "Block entity without integer coordinates, keeping it unindexed"
  | .rejectedSection i x z cause =>
    s!"Rejected section {i} of chunk {chunkText x z}: {cause.text}"
  | .duplicateSection y x z =>
    s!"Duplicate section Y={y.val} in chunk {chunkText x z}, keeping the last one"
  | .unresolved rule i reason =>
    "Left " ++ rule.name ++ " at chunk index " ++ cellText i ++ " unresolved: " ++ reason.message
  | .upgradedChunk x z sections sides deferred consumed =>
    s!"Upgraded chunk {chunkText x z}: {sections} sections, sides {sides.text}, " ++
      s!"{deferred} lazy cells, {consumed} block entities consumed"
  | .upgradedFile input output => "Upgraded " ++ input ++ " into " ++ output
  | .nothingToDo input => input ++ " has no legacy sections, nothing to do"
  | .failed input failure => "Failed to upgrade " ++ input ++ ": " ++ failure.text

end Event

/-- A computation that reports events and may end in an error; the events are kept then too. -/
abbrev Attempt (ε : Type) := EStateM ε (Array Event)

def report {ε : Type} (e : Event) : Attempt ε Unit := modify fun log => log.push e

end Flattening
