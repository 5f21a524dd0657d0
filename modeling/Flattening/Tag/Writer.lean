import Flattening.Bytes
import Flattening.Tag.Basic

/-!
# Writing tags

The written form of a tag is appended to the bytes so far.  Three things have no written
form: a list of tags of different kinds, a text of more than 65535 bytes, and an array or
list of more than `2 ^ 31 - 1` elements.

* `pushText_error_iff`, `pushLength_error_iff`   when a text or a length is refused.
-/

namespace Flattening.Tag

inductive WriteError where
  | mixedList (expected found : UInt8)
  | textTooLong (bytes : Nat)
  | arrayTooLong (length : Nat)
  deriving DecidableEq, Repr

def WriteError.message : WriteError → String
  | .mixedList e f => s!"Mixed list: expected type {e.toNat}, found {f.toNat}"
  | .textTooLong n => s!"String too long for NBT: {n} bytes"
  | .arrayTooLong n => s!"Array too long for NBT: {n}"

/-! ## leaves -/

/-- length in two bytes, then the bytes -/
def pushText (s : String) (out : Array UInt8) : Except WriteError (Array UInt8) :=
  let n := s.utf8ByteSize
  if n ≤ 65535 then .ok (pushWord 2 n out ++ s.toUTF8.data) else .error (.textTooLong n)

def pushLength (n : Nat) (out : Array UInt8) : Except WriteError (Array UInt8) :=
  if n ≤ 0x7fffffff then .ok (pushWord 4 n out) else .error (.arrayTooLong n)

theorem pushText_error_iff (s : String) (out : Array UInt8) (e : WriteError) :
    pushText s out = .error e ↔ 65535 < s.utf8ByteSize ∧ e = .textTooLong s.utf8ByteSize := by
  unfold pushText
  simp only
  split <;> grind

theorem pushLength_error_iff (n : Nat) (out : Array UInt8) (e : WriteError) :
    pushLength n out = .error e ↔ 0x7fffffff < n ∧ e = .arrayTooLong n := by
  unfold pushLength
  split <;> grind

/-- kind and name; an end mark has no name -/
def pushName (name : String) (t : Tag) (out : Array UInt8) : Except WriteError (Array UInt8) :=
  match t with
  | .endMark => .ok (out.push 0)
  | t => pushText name (out.push t.typeId)

/-- the kind of a list is that of its first element -/
def elementKind : List Tag → UInt8
  | [] => 0
  | t :: _ => t.typeId

/-- the first kind in a list that is not the list's -/
def strangeKind? (l : List Tag) : Option UInt8 :=
  (l.find? fun t => t.typeId != elementKind l).map typeId

/-! ## tags -/

mutual

def pushPayload : Tag → Array UInt8 → Except WriteError (Array UInt8)
  | .endMark, out => .ok out
  | .byte v, out => .ok (pushWord 1 v.toUInt8.toNat out)
  | .short v, out => .ok (pushWord 2 v.toUInt16.toNat out)
  | .int v, out => .ok (pushWord 4 v.toUInt32.toNat out)
  | .long v, out => .ok (pushWord 8 v.toUInt64.toNat out)
  | .float b, out => .ok (pushWord 4 b.toNat out)
  | .double b, out => .ok (pushWord 8 b.toNat out)
  | .byteArray a, out => do
    let out ← pushLength a.size out
    return a.foldl (fun o v => o.push v.toUInt8) out
  | .text s, out => pushText s out
  | .list l, out =>
    match strangeKind? l with
    | some k => .error (.mixedList (elementKind l) k)
    | none => do
      let out ← pushLength l.length (out.push (elementKind l))
      pushParts l out
  | .compound m, out => do
    let out ← pushEntries m out
    return out.push 0
  | .intArray a, out => do
    let out ← pushLength a.size out
    return a.foldl (fun o v => pushWord 4 v.toUInt32.toNat o) out
  | .longArray a, out => do
    let out ← pushLength a.size out
    return a.foldl (fun o v => pushWord 8 v.toUInt64.toNat o) out

def pushParts : List Tag → Array UInt8 → Except WriteError (Array UInt8)
  | [], out => .ok out
  | t :: r, out =>
    match pushPayload t out with
    | .ok out => pushParts r out
    | .error e => .error e

def pushEntries : List (String × Tag) → Array UInt8 → Except WriteError (Array UInt8)
  | [], out => .ok out
  | (k, t) :: r, out =>
    match pushName k t out with
    | .error e => .error e
    | .ok out =>
      match pushPayload t out with
      | .ok out => pushEntries r out
      | .error e => .error e

end

def pushNamed (name : String) (t : Tag) (out : Array UInt8) :
    Except WriteError (Array UInt8) := do
  let out ← pushName name t out
  pushPayload t out

/-- the written form of a named tag -/
def write (name : String) (t : Tag) : Except WriteError (Array UInt8) := pushNamed name t #[]

end Flattening.Tag
