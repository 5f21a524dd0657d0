import Flattening.Tag.Basic

/-!
# Equal values

Two tags hold equal values when their numbers are equal as numbers: a NaN differs from every
number, itself included, and the two zeros are equal.  Compounds are compared by name.

* `sameFloat_nan`, `sameFloat_zeros`, `sameFloat_self`   the three cases of a 32-bit float.
-/

namespace Flattening.Tag

/-! ## floating-point numbers by their bits -/

def isNaN32 (b : UInt32) : Bool := 0x7f800000 < b &&& 0x7fffffff
def isNaN64 (b : UInt64) : Bool := 0x7ff0000000000000 < b &&& 0x7fffffffffffffff

def sameFloat (a b : UInt32) : Bool :=
  !isNaN32 a && !isNaN32 b && (a == b || (a ||| b) &&& 0x7fffffff == 0)

def sameDouble (a b : UInt64) : Bool :=
  !isNaN64 a && !isNaN64 b && (a == b || (a ||| b) &&& 0x7fffffffffffffff == 0)

theorem sameFloat_nan (a b : UInt32) (h : isNaN32 a) : sameFloat a b = false := by
  simp [sameFloat, h]

theorem sameFloat_self (a : UInt32) : sameFloat a a = !isNaN32 a := by
  simp [sameFloat]

theorem sameFloat_zeros : sameFloat 0 0x80000000 = true := by decide

/-! ## tags -/

mutual

def sameValue : Tag → Tag → Bool
  | .endMark, .endMark => true
  | .byte a, .byte b => a == b
  | .short a, .short b => a == b
  | .int a, .int b => a == b
  | .long a, .long b => a == b
  | .float a, .float b => sameFloat a b
  | .double a, .double b => sameDouble a b
  | .byteArray a, .byteArray b => a == b
  | .text a, .text b => a == b
  | .list a, .list b => sameValues a b
  | .compound a, .compound b => a.length == b.length && sameEntries a b
  | .intArray a, .intArray b => a == b
  | .longArray a, .longArray b => a == b
  | _, _ => false

def sameValues : List Tag → List Tag → Bool
  | [], [] => true
  | s :: a, t :: b => sameValue s t && sameValues a b
  | _, _ => false

/-- every entry of the first list has an equal value under its name in the second -/
def sameEntries : List (String × Tag) → List (String × Tag) → Bool
  | [], _ => true
  | (k, s) :: a, b =>
    match Entries.get? k b with
    | some t => sameValue s t && sameEntries a b
    | none => false

end

end Flattening.Tag
