import Flattening.Document
import Flattening.Upgrade

/-!
# The command line

One chunk file is read, upgraded and written, to a second path or over itself.  The files are
reached through a `Disk`, so that the whole run is a function of what the disk answers.

* `upgradeBytes_of_read_error`   a file that cannot be read gives its error and no event.
-/

namespace Flattening

namespace Failure

def ofDocument (e : DocumentError) : Failure := .io e.message

def ofUpgrade : UpgradeError → Failure
  | .malformed m => .ofMalformed m
  | .fault f => .fault f

end Failure

namespace CommandLine

def usage (program : String) : String := s!"usage: {program} <chunk.nbt> [output.nbt]"

/-! ## one file -/

/-- the bytes of the upgraded file; `none` when there was nothing to do -/
def upgradeBytes (bytes : List UInt8) : Attempt Failure (Option (Array UInt8)) := fun log =>
  match Document.readGzip bytes with
  | .error e => .error (.ofDocument e) log
  | .ok d =>
    match upgradeChunk d.root log with
    | .error e log => .error (.ofUpgrade e) log
    | .ok none log => .ok none log
    | .ok (some root) log =>
      match Document.writeGzip ⟨d.name, root⟩ with
      | .error e => .error (.ofDocument e) log
      | .ok out => .ok (some out) log

theorem upgradeBytes_of_read_error {bytes : List UInt8} {e : DocumentError}
    (h : Document.readGzip bytes = .error e) (log : Array Event) :
    upgradeBytes bytes log = .error (.ofDocument e) log := by
  simp [upgradeBytes, h]

/-! ## a run -/

structure Disk (m : Type → Type) where
  read : String → m (Except String (List UInt8))
  write : String → Array UInt8 → m (Except String Unit)

/-- what a run leaves behind, the files apart -/
structure Outcome where
  events : Array Event
  /-- a line for the error stream -/
  complaint : Option String
  success : Bool

def Outcome.failed (input : String) (log : Array Event) (f : Failure) : Outcome :=
  ⟨log.push (.failed input f), none, false⟩

variable {m : Type → Type} [Monad m]

def upgradeFile (disk : Disk m) (input output : String) : m Outcome := do
  match ← disk.read input with
  | .error e => return .failed input #[] (.io e)
  | .ok bytes =>
    match upgradeBytes bytes #[] with
    | .error f log => return .failed input log f
    | .ok none log => return ⟨log.push (.nothingToDo input), none, true⟩
    | .ok (some out) log =>
      match ← disk.write output out with
      | .error e => return .failed input log (.io e)
      | .ok () => return ⟨log.push (.upgradedFile input output), none, true⟩

/-- Without an output the input is written over; further arguments are ignored. -/
def run (disk : Disk m) (program : String) (args : List String) : m Outcome :=
  match args with
  | [] => return ⟨#[], some (usage program), false⟩
  | [input] => upgradeFile disk input input
  | input :: output :: _ => upgradeFile disk input output

/-- the events that a threshold lets through -/
def shown (threshold : Severity) (events : Array Event) : List Event :=
  events.toList.filter fun e => threshold.isShown e.severity

end CommandLine

end Flattening
