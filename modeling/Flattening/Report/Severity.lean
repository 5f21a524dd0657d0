import Flattening.Text.Blank

/-!
# Severities of messages

* `rank_inj`         no two severities rank alike;
* `ofText?_name`     the name of a severity reads back;
* `isShown_debug`    at the lowest threshold everything is shown.
-/

namespace Flattening

inductive Severity where
  | debug | info | warning | error | fatal
  deriving DecidableEq, Repr

namespace Severity

def rank : Severity → Nat
  | .debug => 0
  | .info => 1
  | .warning => 2
  | .error => 3
  | .fatal => 4

theorem rank_inj {a b : Severity} (h : a.rank = b.rank) : a = b := by
  cases a <;> cases b <;> first | rfl | cases h

instance : Ord Severity where
  compare a b := compare a.rank b.rank

def name : Severity → String
  | .debug => "DEBUG"
  | .info => "INFO"
  | .warning => "WARNING"
  | .error => "ERROR"
  | .fatal => "FATAL"

/-- a text that names no severity, without blanks around it and in lower case -/
structure Unknown where
  text : String
  deriving DecidableEq

def Unknown.message (u : Unknown) : String := "Unknown log severity: " ++ u.text

/-- Blanks around the name and the case of its letters do not matter. -/
def ofText? (s : String) : Except Unknown Severity :=
  match String.ofList (Text.lower (Text.trim s.toList)) with
  | "debug" => .ok .debug
  | "info" => .ok .info
  | "warn" => .ok .warning
  | "warning" => .ok .warning
  | "error" => .ok .error
  | "fatal" => .ok .fatal
  | other => .error ⟨other⟩

theorem ofText?_name (a : Severity) : ofText? a.name = .ok a := by
  cases a <;> rfl

/-- A message is shown from the threshold on. -/
def isShown (threshold a : Severity) : Bool := threshold.rank ≤ a.rank

theorem isShown_debug (a : Severity) : isShown .debug a = true := by cases a <;> rfl

/-- The threshold that a setting asks for; without one that can be read it is `info`. -/
def threshold (setting : Option String) : Severity :=
  match setting with
  | none => .info
  | some s =>
    match ofText? s with
    | .ok a => a
    | .error _ => .info

end Severity

end Flattening
