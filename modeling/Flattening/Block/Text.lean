import Flattening.Block.State
import Flattening.Text.Quoted

/-!
# The text of a block state

A state is written as its name, followed in brackets by its properties as `key=value` with
commas between, in key order; without properties there are no brackets.  Nothing is escaped:
the name ends at the first opening bracket, a pair at the next comma, a key at the first
equals sign, and the last character must be the closing bracket.  Empty pairs are skipped.

* `cutAt_append`, `cutAt_eq_none_iff`   where a text is cut;
* `ofText?_plain`                       a text without brackets is a name.
-/

namespace Flattening

/-- what is before and behind the first `c` -/
def cutAt (c : Char) : List Char → Option (List Char × List Char)
  | [] => none
  | d :: r => if d = c then some ([], r) else (cutAt c r).map fun p => (d :: p.1, p.2)

theorem cutAt_append {c : Char} {s : List Char} (h : c ∉ s) (t : List Char) :
    cutAt c (s ++ c :: t) = some (s, t) := by
  induction s with
  | nil => simp [cutAt]
  | cons d r ih =>
    have hd : d ≠ c := fun e => h (by simp [e])
    have hr : c ∉ r := fun m => h (by simp [m])
    simp [cutAt, hd, ih hr]

theorem cutAt_eq_none_iff {c : Char} {s : List Char} : cutAt c s = none ↔ c ∉ s := by
  induction s with
  | nil => simp [cutAt]
  | cons d r ih =>
    by_cases h : d = c
    · simp [cutAt, h]
    · simp [cutAt, h, ih, Ne.symm h]

/-- the pieces between the `c`s, one more than there are `c`s -/
def piecesBetween (c : Char) : List Char → List (List Char)
  | [] => [[]]
  | d :: r =>
    if d = c then [] :: piecesBetween c r
    else match piecesBetween c r with
      | [] => [[d]]
      | p :: ps => (d :: p) :: ps

/-- what is before the last character, if that is a `c` -/
def beforeLast? (c : Char) (s : List Char) : Option (List Char) :=
  if s.getLast? = some c then some s.dropLast else none

namespace BlockState

/-! ## writing -/

def pairText (p : String × String) : List Char := p.1.toList ++ '=' :: p.2.toList

def chars (s : BlockState) : List Char :=
  s.name.toList ++
    if s.properties.isEmpty then []
    else '[' :: [','].intercalate (s.properties.map pairText) ++ [']']

def text (s : BlockState) : String := String.ofList s.chars

/-! ## reading -/

inductive TextError where
  | unterminated (text : String)
  | withoutValue (text : String)
  | emptyName (text : String)
  deriving DecidableEq, Repr

def TextError.message : TextError → String
  | .unterminated s => "Unterminated property list in " ++ Text.quoted s
  | .withoutValue s => "Property without value in " ++ Text.quoted s
  | .emptyName s => "Empty block name in " ++ Text.quoted s

def pair? (p : List Char) : Option (String × String) :=
  (cutAt '=' p).map fun kv => (String.ofList kv.1, String.ofList kv.2)

/-- The brackets are judged before the name. -/
def ofText? (t : String) : Except TextError BlockState := do
  let (name, pairs) ←
    match cutAt '[' t.toList with
    | none => pure (t.toList, [])
    | some (name, r) =>
      match beforeLast? ']' r with
      | none => throw (.unterminated t)
      | some body =>
        match ((piecesBetween ',' body).filter fun p => !p.isEmpty).mapM pair? with
        | none => throw (.withoutValue t)
        | some pairs => pure (name, pairs)
  if name.isEmpty then throw (.emptyName t)
  return ofPairs (String.ofList name) pairs

theorem ofText?_plain {t : String} (h : '[' ∉ t.toList) (hn : t ≠ "") :
    ofText? t = .ok (ofPairs t []) := by
  have h' : cutAt '[' t.toList = none := cutAt_eq_none_iff.2 h
  simp [ofText?, h', hn, bind, Except.bind, pure, Except.pure]

end BlockState

end Flattening
