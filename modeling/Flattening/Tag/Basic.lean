import Flattening.Entries

/-!
# Tags: the values of a chunk file

A tag is a number, an array of numbers, a text, a list of tags or a compound of named tags.
Floating-point numbers are kept as their bits, so a tag read from a file is written back
without touching a NaN.  A compound is a list of entries; the operations here keep it in key
order when it starts in key order.

* `Kind.ofByte?_toByte`      the kinds are numbered without a clash;
* `get?_insert_self`, `get?_insert_ne`   the compound operations see one another.
-/

namespace Flattening

inductive Tag where
  | endMark
  | byte (v : Int8)
  | short (v : Int16)
  | int (v : Int32)
  | long (v : Int64)
  | float (bits : UInt32)
  | double (bits : UInt64)
  | byteArray (v : Array Int8)
  | text (v : String)
  | list (v : List Tag)
  | compound (v : List (String × Tag))
  | intArray (v : Array Int32)
  | longArray (v : Array Int64)
  deriving Inhabited

namespace Tag

/-! ## kinds -/

inductive Kind where
  | endMark | byte | short | int | long | float | double
  | byteArray | text | list | compound | intArray | longArray
  deriving DecidableEq, Repr

def Kind.toByte : Kind → UInt8
  | .endMark => 0
  | .byte => 1
  | .short => 2
  | .int => 3
  | .long => 4
  | .float => 5
  | .double => 6
  | .byteArray => 7
  | .text => 8
  | .list => 9
  | .compound => 10
  | .intArray => 11
  | .longArray => 12

def Kind.ofByte? (b : UInt8) : Option Kind :=
  match b.toNat with
  | 0 => some .endMark
  | 1 => some .byte
  | 2 => some .short
  | 3 => some .int
  | 4 => some .long
  | 5 => some .float
  | 6 => some .double
  | 7 => some .byteArray
  | 8 => some .text
  | 9 => some .list
  | 10 => some .compound
  | 11 => some .intArray
  | 12 => some .longArray
  | _ => none

theorem Kind.ofByte?_toByte (k : Kind) : Kind.ofByte? k.toByte = some k := by
  cases k <;> rfl

theorem Kind.toByte_inj {j k : Kind} (h : j.toByte = k.toByte) : j = k := by
  have h' := congrArg Kind.ofByte? h
  rwa [ofByte?_toByte, ofByte?_toByte, Option.some.injEq] at h'

def kind : Tag → Kind
  | .endMark => .endMark
  | .byte _ => .byte
  | .short _ => .short
  | .int _ => .int
  | .long _ => .long
  | .float _ => .float
  | .double _ => .double
  | .byteArray _ => .byteArray
  | .text _ => .text
  | .list _ => .list
  | .compound _ => .compound
  | .intArray _ => .intArray
  | .longArray _ => .longArray

/-- the byte that names the kind in a file -/
def typeId (t : Tag) : UInt8 := t.kind.toByte

/-! ## parts -/

def entries? : Tag → Option (Entries String Tag)
  | .compound m => some m
  | _ => none

def list? : Tag → Option (List Tag)
  | .list l => some l
  | _ => none

def text? : Tag → Option String
  | .text s => some s
  | _ => none

def byteArray? : Tag → Option (Array Int8)
  | .byteArray a => some a
  | _ => none

def longArray? : Tag → Option (Array Int64)
  | .longArray a => some a
  | _ => none

def intArray? : Tag → Option (Array Int32)
  | .intArray a => some a
  | _ => none

/-- any whole number, widened -/
def integer? : Tag → Option Int64
  | .byte n => some n.toInt64
  | .short n => some n.toInt64
  | .int n => some n.toInt64
  | .long n => some n
  | _ => none

/-- any whole number, cut to its low 32 bits -/
def int32? (t : Tag) : Option Int32 := t.integer?.map Int64.toInt32

/-- any whole number; all but zero are true -/
def bool? (t : Tag) : Option Bool := t.integer?.map (· != 0)

/-! ## compounds -/

def emptyCompound : Tag := .compound []

/-- bytes as they lie in a file -/
def ofBytes (bytes : Array UInt8) : Tag := .byteArray (bytes.map UInt8.toInt8)

def get? (t : Tag) (k : String) : Option Tag := t.entries?.bind (Entries.get? k)

/-- Only a compound takes an entry; any other tag stays as it is. -/
def insert (t : Tag) (k : String) (v : Tag) : Tag :=
  match t with
  | .compound m => .compound (Entries.insert k v m)
  | t => t

def erase (t : Tag) (k : String) : Tag :=
  match t with
  | .compound m => .compound (Entries.erase k m)
  | t => t

theorem get?_compound (m : List (String × Tag)) (k : String) :
    (compound m).get? k = Entries.get? k m := rfl

theorem insert_compound (m : List (String × Tag)) (k : String) (v : Tag) :
    (compound m).insert k v = .compound (Entries.insert k v m) := rfl

theorem get?_insert_self (m : List (String × Tag)) (k : String) (v : Tag) :
    ((compound m).insert k v).get? k = some v := Entries.get?_insert_self k v m

theorem get?_insert_ne {k k' : String} (h : k' ≠ k) (t v : Tag) :
    (t.insert k v).get? k' = t.get? k' := by
  cases t
  case compound m => exact Entries.get?_insert_ne h v m
  all_goals rfl

end Tag

end Flattening
