import Flattening.Report.Fault

/-!
# What can be wrong with a chunk

A chunk that breaks a rule of its format is refused with the first rule broken.
-/

namespace Flattening

inductive Malformed where
  | levelNotCompound
  | notInteger (key : String)
  | notList (key : String)
  | blockEntityNotCompound
  | sectionNotCompound
  | sectionWithoutY
  | sectionYNotInteger
  | sectionYOutside (y : Int64)
  | notByteArray (key : String)
  | wrongLength (key : String) (expected actual : Nat)
  | sectionYMissing
  | withoutPalette
  | invalidPaletteEntry
  | emptyPalette
  | withoutBlockStates
  | wrongWordCount (words bits : Nat)
  | paletteEntryMissing (index size : Nat)
  deriving DecidableEq, Repr

def Malformed.message : Malformed → String
  | .levelNotCompound => "Level is not a compound"
  | .notInteger k => s!"{k} is not an integer"
  | .notList k => s!"{k} is not a list"
  | .blockEntityNotCompound => "TileEntities entry is not a compound"
  | .sectionNotCompound => "section is not a compound"
  | .sectionWithoutY => "section without Y"
  | .sectionYNotInteger => "section Y is not an integer"
  | .sectionYOutside y => s!"section Y {y.toInt} outside 0..15"
  | .notByteArray k => s!"{k} is not a byte array"
  | .wrongLength k e a => s!"{k} must be {e} bytes, got {a}"
  | .sectionYMissing => "section Y missing or out of range"
  | .withoutPalette => "section without Palette"
  | .invalidPaletteEntry => "invalid Palette entry"
  | .emptyPalette => "empty Palette"
  | .withoutBlockStates => "section without BlockStates"
  | .wrongWordCount w b => s!"BlockStates has {w} words, expected {b} bits per entry"
  | .paletteEntryMissing i n => s!"BlockStates references palette entry {i} of {n}"

/-- A failure as it is shown: a file could not be read or written, a chunk is malformed, or
the program itself went out of bounds. -/
inductive Failure where
  | io (message : String)
  | malformed (message : String)
  | fault (f : Fault)
  deriving DecidableEq, Repr

namespace Failure

def ofMalformed (m : Malformed) : Failure := .malformed m.message

def text : Failure → String
  | .io m => "IO error: " ++ m
  | .malformed m => "Malformed chunk: " ++ m
  | .fault f => f.message?.getD "index out of bounds"

/-- the error behind a failure -/
def cause? : Failure → Option String
  | .io m => some m
  | .malformed _ => none
  | .fault _ => none

end Failure

def Malformed.text (m : Malformed) : String := (Failure.ofMalformed m).text

end Flattening
