import Flattening.Gzip.Member
import Flattening.Tag.Reader
import Flattening.Tag.Writer

/-!
# Documents: files that hold one named compound

A document is read from plain bytes or from a gzip member.  Bytes behind the tag are left
alone, and a gzip member is decoded only as far as the tag reaches.

* `readSupply_nil`   without loose bytes a supply is read as it is.
-/

namespace Flattening

structure Document where
  name : String
  root : Tag

inductive DocumentError where
  | read (e : Tag.ReadError)
  | write (e : Tag.WriteError)
  | rootNotCompound (typeId : UInt8)
  | corrupt
  deriving DecidableEq, Repr

def DocumentError.message : DocumentError → String
  | .read e => e.message
  | .write e => e.message
  | .rootNotCompound b => s!"Root tag must be a compound, found type {b.toNat}"
  | .corrupt => "corrupt deflate stream"

namespace Document

def read (s : List UInt8) : Except DocumentError Document :=
  match Tag.read s with
  | .error e => .error (.read e)
  | .ok ((name, root), _) =>
    match root with
    | .compound _ => .ok ⟨name, root⟩
    | _ => .error (.rootNotCompound root.typeId)

/-- Reads `firm` bytes.  The request that finds them used up may take what it misses from the
loose bytes, and the rest of those is lost. -/
def readSupply (firm loose : List UInt8) : Except DocumentError Document :=
  match read firm with
  | .error (.read (.truncated missing)) => read (firm ++ loose.take missing)
  | r => r

theorem readSupply_nil (firm : List UInt8) : readSupply firm [] = read firm := by
  unfold readSupply
  split <;> simp

/-- When the tag needs more bytes than a damaged member gives, the damage is the error. -/
def readGzip (s : List UInt8) : Except DocumentError Document :=
  let member := Gzip.unpack s
  let bytes := member.bytes.toList
  match readSupply (bytes.take member.firm) (bytes.drop member.firm) with
  | .error (.read (.truncated missing)) =>
    if member.ending = some .corrupt then .error .corrupt else .error (.read (.truncated missing))
  | r => r

def write (d : Document) : Except DocumentError (Array UInt8) :=
  match Tag.write d.name d.root with
  | .ok out => .ok out
  | .error e => .error (.write e)

def writeGzip (d : Document) : Except DocumentError (Array UInt8) :=
  match d.write with
  | .ok out => .ok (Gzip.pack out)
  | .error e => .error e

end Document

end Flattening
