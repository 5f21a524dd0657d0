import Flattening.Bytes
import Flattening.Tag.Basic

/-!
# Reading tags

A reader takes bytes from the front of its input and leaves the rest, or says why it cannot.
It asks for a number, a text or an array of bytes as a whole, and when the input ends it says
how many bytes of that are missing.  A tag in a file is its kind, its name and its payload; the
end mark has neither name nor payload.  A list declares its length, a compound ends at an end
mark.

Reading always ends: `payload` recurses on the number of levels still allowed, a list runs
over its declared length and stops when the bytes run out, and every entry of a compound
takes at least one byte, so as many rounds as there are bytes are enough.

* `takeBytes_nil`                   all bytes of an empty input are missing;
* `repeated_zero`, `repeated_succ`   a list reads its elements one after the other;
* `entries_zero`, `entries_succ`     a compound reads entries until the end mark, and the last
  entry of a name wins.
-/

namespace Flattening.Tag

/-- A tag inside this many others is refused. -/
def maxNesting : Nat := 512

inductive ReadError where
  | truncated (missing : Nat)
  | negativeLength (n : Int32)
  | unknownKind (b : UInt8)
  | tooDeep
  | listOfEndMarks
  | invalidText
  deriving DecidableEq, Repr

def ReadError.message : ReadError → String
  | .truncated _ => "failed to fill whole buffer"
  | .negativeLength n => s!"Negative array length: {n.toInt}"
  | .unknownKind b => s!"Invalid tag type: {b.toNat}"
  | .tooDeep => s!"NBT nested deeper than {maxNesting}"
  | .listOfEndMarks => "Non-empty list of TAG_End"
  | .invalidText => "stream did not contain valid UTF-8"

abbrev Reader := StateT (List UInt8) (Except ReadError)

namespace Reader

/-! ## leaves -/

def word (w : Nat) : Reader Nat := fun s =>
  match takeWord w 0 s with
  | some r => .ok r
  | none => .error (.truncated (w - s.length))

def byte : Reader UInt8 := return UInt8.ofNat (← word 1)

/-- A length is a signed number of 32 bits that is not negative. -/
def length : Reader Nat := do
  let n ← word 4
  if n < 0x80000000 then return n else throw (.negativeLength (UInt32.ofNat n).toInt32)

/-- `out` holds the bytes taken so far -/
def takeBytes : Nat → Array UInt8 → List UInt8 → Except ReadError (Array UInt8 × List UInt8)
  | 0, out, s => .ok (out, s)
  | n + 1, _, [] => .error (.truncated (n + 1))
  | n + 1, out, b :: s => takeBytes n (out.push b) s

theorem takeBytes_nil (n : Nat) (out : Array UInt8) :
    takeBytes (n + 1) out [] = .error (.truncated (n + 1)) := rfl

def bytes (n : Nat) : Reader (Array UInt8) := takeBytes n #[]

def text : Reader String := do
  let n ← word 2
  let b ← bytes n
  match String.fromUTF8? ⟨b⟩ with
  | some s => return s
  | none => throw .invalidText

/-! ## repetition -/

/-- `out` holds the items read so far -/
def repeated {α : Type} (item : Reader α) : Nat → Array α → Reader (Array α)
  | 0, out => fun s => .ok (out, s)
  | n + 1, out => fun s =>
    match item s with
    | .ok (a, s) => repeated item n (out.push a) s
    | .error e => .error e

theorem repeated_zero {α : Type} (item : Reader α) (out : Array α) (s : List UInt8) :
    repeated item 0 out s = .ok (out, s) := rfl

theorem repeated_succ {α : Type} (item : Reader α) (n : Nat) (out : Array α) (s : List UInt8) :
    repeated item (n + 1) out s =
      match item s with
      | .ok (a, s) => repeated item n (out.push a) s
      | .error e => .error e := rfl

/-- Reads entries until `entry` finds the end mark, for at most the given number of rounds. -/
def entries (entry : Reader (Option (String × Tag))) :
    Nat → Entries String Tag → Reader (Entries String Tag)
  | 0, _ => fun _ => .error (.truncated 1)
  | n + 1, out => fun s =>
    match entry s with
    | .ok (none, s) => .ok (out, s)
    | .ok (some (k, t), s) => entries entry n (Entries.insert k t out) s
    | .error e => .error e

theorem entries_zero (entry : Reader (Option (String × Tag))) (out : Entries String Tag)
    (s : List UInt8) : entries entry 0 out s = .error (.truncated 1) := rfl

theorem entries_succ (entry : Reader (Option (String × Tag))) (n : Nat)
    (out : Entries String Tag) (s : List UInt8) :
    entries entry (n + 1) out s =
      match entry s with
      | .ok (none, s) => .ok (out, s)
      | .ok (some (k, t), s) => entries entry n (Entries.insert k t out) s
      | .error e => .error e := rfl

/-! ## tags -/

/-- kind, name and payload; `none` at an end mark -/
def named (payload : UInt8 → Reader Tag) : Reader (Option (String × Tag)) := do
  let b ← byte
  if b = 0 then return none
  let name ← text
  let t ← payload b
  return some (name, t)

/-- The payload of a tag of kind `b`, with the given number of levels still allowed.  A
compound takes at most `rounds` entries. -/
def payload (rounds : Nat) : Nat → UInt8 → Reader Tag
  | 0, _ => throw .tooDeep
  | levels + 1, b =>
    match Kind.ofByte? b with
    | none => throw (.unknownKind b)
    | some .endMark => return .endMark
    | some .byte => return .byte (UInt8.ofNat (← word 1)).toInt8
    | some .short => return .short (UInt16.ofNat (← word 2)).toInt16
    | some .int => return .int (UInt32.ofNat (← word 4)).toInt32
    | some .long => return .long (UInt64.ofNat (← word 8)).toInt64
    | some .float => return .float (UInt32.ofNat (← word 4))
    | some .double => return .double (UInt64.ofNat (← word 8))
    | some .byteArray => do
      let n ← length
      let b ← bytes n
      return .ofBytes b
    | some .text => return .text (← text)
    | some .list => do
      let e ← byte
      let n ← length
      if e = 0 ∧ 0 < n then throw .listOfEndMarks
      let l ← repeated (payload rounds levels e) n #[]
      return .list l.toList
    | some .compound => do
      let m ← entries (named (payload rounds levels)) rounds []
      return .compound m
    | some .intArray => do
      let n ← length
      let a ← repeated (word 4) n #[]
      return .intArray (a.map fun w => (UInt32.ofNat w).toInt32)
    | some .longArray => do
      let n ← length
      let a ← repeated (word 8) n #[]
      return .longArray (a.map fun w => (UInt64.ofNat w).toInt64)

end Reader

/-- Reads one named tag from the front; gives its name, the tag and the bytes behind it.  An
end mark has the empty name. -/
def read (s : List UInt8) : Except ReadError ((String × Tag) × List UInt8) := do
  match ← Reader.named (Reader.payload s.length (maxNesting + 1)) s with
  | (some r, rest) => .ok (r, rest)
  | (none, rest) => .ok (("", .endMark), rest)

end Flattening.Tag
