import Flattening.CommandLine
import Std.Time

/-! # The program: files, environment, clock and streams -/

open Flattening

/-- the words of the operating system, with its number -/
def ioMessage (e : IO.Error) : String :=
  match e with
  | .noFileOrDirectory _ code details => s!"{details} (os error {code})"
  | .permissionDenied _ code details => s!"{details} (os error {code})"
  | .inappropriateType _ code details => s!"{details} (os error {code})"
  | e => toString e

def localDisk : CommandLine.Disk IO where
  read path := do
    try return .ok (← IO.FS.readBinFile path).toList
    catch e => return .error (ioMessage e)
  write path bytes := do
    try
      IO.FS.writeBinFile path ⟨bytes⟩
      return .ok ()
    catch e => return .error (ioMessage e)

def main (args : List String) : IO UInt32 := do
  let outcome ← CommandLine.run localDisk "flattening" args
  let threshold := Severity.threshold (← IO.getEnv "FLATTENING_LOG")
  for e in CommandLine.shown threshold outcome.events do
    let now := (← Std.Time.DateTime.now).format "uuuu-MM-dd HH:mm:ss z"
    IO.println s!"[{e.severity.name}] {now} {e.message}"
  if let some line := outcome.complaint then IO.eprintln line
  return if outcome.success then 0 else 1
