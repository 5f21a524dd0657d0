/-!
# Codes of varying length

A compressed block gives a length to every symbol; the codes follow from the lengths.
Shorter codes come first, equal lengths go by symbol, and each code is the one before it plus
one, widened to its own length.  A code is kept as a binary tree and read bit by bit.

* `find_leaf`, `find_branch_nil`   how a path is followed;
* `not_fills_nil`, `isSparse_nil`   no code at all fills nothing, and is sparse.
-/

namespace Flattening.Gzip

inductive Code where
  | gap
  | leaf (symbol : Nat)
  | branch (zero one : Code)
  deriving Inhabited

namespace Code

/-- Puts a symbol at the end of the path given by the low `n` bits of `path`, highest first. -/
def place (symbol path : Nat) : Nat → Code → Code
  | 0, _ => .leaf symbol
  | n + 1, c =>
    let (zero, one) := match c with
      | .branch z o => (z, o)
      | _ => (.gap, .gap)
    if path.testBit n then .branch zero (place symbol path n one)
    else .branch (place symbol path n zero) one

/-- the symbol at the end of a path, and the bits behind it -/
def find : Code → List Bool → Option (Nat × List Bool)
  | .gap, _ => none
  | .leaf s, r => some (s, r)
  | .branch _ _, [] => none
  | .branch z o, b :: r => if b then find o r else find z r

theorem find_leaf (s : Nat) (r : List Bool) : find (.leaf s) r = some (s, r) := rfl
theorem find_branch_nil (z o : Code) : find (.branch z o) [] = none := rfl

/-- pairs of length and symbol, shortest first; a symbol of length zero has no code -/
def byLength (lengths : List Nat) : List (Nat × Nat) :=
  (List.range 15).flatMap fun i => (lengths.zipIdx.filter fun p => p.1 == i + 1)

structure Growth where
  code : Code
  length : Nat
  next : Nat

def Growth.add (g : Growth) (p : Nat × Nat) : Growth :=
  let path := g.next <<< (p.1 - g.length)
  ⟨g.code.place p.2 path p.1, p.1, path + 1⟩

/-- the code that follows from the lengths -/
def ofLengths (lengths : List Nat) : Code :=
  ((byLength lengths).foldl Growth.add ⟨.branch .gap .gap, 0, 0⟩).code

/-- Codes neither overlap nor leave a gap. -/
def fills (lengths : List Nat) : Bool :=
  (byLength lengths).foldl (fun n p => n + 1 <<< (15 - p.1)) 0 == 1 <<< 15

/-- There is no code, or a single one of one bit. -/
def isSparse (lengths : List Nat) : Bool :=
  match byLength lengths with
  | [] => true
  | [(l, _)] => l == 1
  | _ => false

theorem not_fills_nil : fills [] = false := by decide
theorem isSparse_nil : isSparse [] = true := by decide

end Code

end Flattening.Gzip
