/-!
# Sides of a chunk

A chunk has eight horizontal neighbours.  A set of them is a byte with one bit for each, in
the order north, north-east and so on round the compass.

* `bits_union`, `contains_union_left`   joining two sets;
* `ofEdge_interior`   a cell that lies on no edge touches no neighbour.
-/

namespace Flattening

structure Sides where
  bits : UInt8
  deriving DecidableEq, Repr

namespace Sides

def empty : Sides := ⟨0⟩
def north : Sides := ⟨1⟩
def northEast : Sides := ⟨2⟩
def east : Sides := ⟨4⟩
def southEast : Sides := ⟨8⟩
def south : Sides := ⟨16⟩
def southWest : Sides := ⟨32⟩
def west : Sides := ⟨64⟩
def northWest : Sides := ⟨128⟩

instance : EmptyCollection Sides := ⟨empty⟩
instance : Union Sides := ⟨fun a b => ⟨a.bits ||| b.bits⟩⟩

def isEmpty (s : Sides) : Bool := s.bits == 0

/-- every side of the second set is in the first -/
def contains (s t : Sides) : Bool := s.bits &&& t.bits == t.bits

theorem bits_union (s t : Sides) : (s ∪ t).bits = s.bits ||| t.bits := rfl

theorem union_of_isEmpty {t : Sides} (h : t.isEmpty = true) (s : Sides) : s ∪ t = s := by
  have ht : t.bits = 0 := beq_iff_eq.1 h
  show Sides.mk (s.bits ||| t.bits) = s
  rw [ht, UInt8.or_zero]

theorem contains_union_left (s t : Sides) : (s ∪ t).contains s = true := by
  have h : (s.bits ||| t.bits) &&& s.bits = s.bits := by
    apply UInt8.toNat_inj.1
    apply Nat.eq_of_testBit_eq
    intro i
    simp only [UInt8.toNat_and, UInt8.toNat_or, Nat.testBit_and, Nat.testBit_or]
    cases s.bits.toNat.testBit i <;> simp
  simp [contains, bits_union, h]

/-- The side that a cell at `(x, z)` touches.  A corner touches the diagonal neighbour alone. -/
def ofEdge (x z : Nat) : Sides :=
  if z = 0 then
    if x = 15 then northEast else if x = 0 then northWest else north
  else if z = 15 then
    if x = 0 then southWest else if x = 15 then southEast else south
  else if x = 15 then east
  else if x = 0 then west
  else empty

theorem ofEdge_interior {x z : Nat} (hx : x < 16) (hz : z < 16) :
    (ofEdge x z).isEmpty = true ↔ (1 ≤ x ∧ x ≤ 14) ∧ 1 ≤ z ∧ z ≤ 14 := by
  have h : ∀ x < 16, ∀ z < 16,
      ((ofEdge x z).isEmpty = true ↔ (1 ≤ x ∧ x ≤ 14) ∧ 1 ≤ z ∧ z ≤ 14) := by decide
  exact h x hx z hz

def names : List (Sides × String) :=
  [(north, "N"), (northEast, "NE"), (east, "E"), (southEast, "SE"), (south, "S"),
   (southWest, "SW"), (west, "W"), (northWest, "NW")]

def text (s : Sides) : String :=
  match (names.filter fun p => s.contains p.1).map (·.2) with
  | [] => "none"
  | l => "|".intercalate l

end Sides

end Flattening
