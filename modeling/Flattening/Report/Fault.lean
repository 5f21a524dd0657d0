/-!
# Faults

A fault is a use of a container outside its bounds: an index that is not there, a value wider
than its field.  It is never the answer to a malformed file.
-/

namespace Flattening

inductive Fault where
  /-- an index past the end of a plain array -/
  | outOfBounds
  | indexOutOfRange (index entries : Nat)
  | valueTooWide (value bits : Nat)
  | badWidth (bits : Nat)
  deriving DecidableEq, Repr

def Fault.message? : Fault → Option String
  | .outOfBounds => none
  | .indexOutOfRange i n => some s!"index {i} out of range for {n} entries"
  | .valueTooWide v b => some s!"value {v} does not fit in {b} bits"
  | .badWidth b => some s!"bits per entry must be within 1..=32, got {b}"

end Flattening
