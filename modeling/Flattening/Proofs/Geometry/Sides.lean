import Flattening.Geometry.Cell
import Flattening.Geometry.Sides
import Mathlib.Data.List.Basic
import Mathlib.Data.Nat.Bitwise

/-!
# Sides, one by one

A set of sides is told by the single sides in it.  Joining sets joins these, and what one cell
touches is a single side or none.

* `contains_union`, `contains_foldl_union`   a side is in a union when it is in one of its parts;
* `contains_ofEdge`                          a cell touches at most one side;
* `isEmpty_ofEdge_iff`                       and none when it lies inside.
-/

namespace Flattening.Sides

/-- the eight sides, each by itself -/
def single : List Sides := names.map Prod.fst

/-- A single side is one bit. -/
theorem contains_iff_testBit {d : Sides} {k : Nat} (hd : d.bits.toNat = 2 ^ k) (s : Sides) :
    s.contains d = true ↔ s.bits.toNat.testBit k = true := by
  rw [contains, beq_iff_eq, ← UInt8.toNat_inj, UInt8.toNat_and, hd, Nat.and_two_pow]
  have hpos := Nat.two_pow_pos k
  cases s.bits.toNat.testBit k with
  | true => simp
  | false => simp; omega

theorem contains_union {d : Sides} (hd : d ∈ single) (s t : Sides) :
    (s ∪ t).contains d = true ↔ s.contains d = true ∨ t.contains d = true := by
  have hbit : ∀ d ∈ single, ∃ k < 8, d.bits.toNat = 2 ^ k := by decide
  obtain ⟨k, -, hk⟩ := hbit d hd
  rw [contains_iff_testBit hk, contains_iff_testBit hk, contains_iff_testBit hk, bits_union,
    UInt8.toNat_or, Nat.testBit_or, Bool.or_eq_true]

/-- A side is in a union when it is in one of its parts. -/
theorem contains_foldl_union {α : Type} {d : Sides} (hd : d ∈ single) (f : α → Sides)
    (l : List α) (s : Sides) :
    (l.foldl (fun s a => s ∪ f a) s).contains d = true ↔
      s.contains d = true ∨ ∃ a ∈ l, (f a).contains d = true := by
  induction l generalizing s with
  | nil => simp
  | cons a l ih => rw [List.foldl_cons, ih, contains_union hd, or_assoc, List.exists_mem_cons_iff]

theorem ofEdge_mem (x z : Nat) : ofEdge x z ∈ empty :: single := by
  unfold ofEdge
  repeat' split
  all_goals decide

/-- A cell touches at most one side. -/
theorem contains_ofEdge {d : Sides} (hd : d ∈ single) (x z : Nat) :
    (ofEdge x z).contains d = true ↔ ofEdge x z = d := by
  have hall : ∀ e ∈ empty :: single, ∀ d ∈ single, e.contains d = true ↔ e = d := by decide
  exact hall _ (ofEdge_mem x z) d hd

theorem ofEdge_mem_single_iff (x z : Nat) :
    ofEdge x z ∈ single ↔ ¬ (ofEdge x z).isEmpty = true := by
  have hall : ∀ e ∈ empty :: single, e ∈ single ↔ ¬ e.isEmpty = true := by decide
  exact hall _ (ofEdge_mem x z)

/-- The cells that touch no side are those inside. -/
theorem isEmpty_ofEdge_iff (c : Cell) :
    (ofEdge c.x c.z).isEmpty = true ↔ (1 ≤ c.x ∧ c.x ≤ 14) ∧ 1 ≤ c.z ∧ c.z ≤ 14 :=
  ofEdge_interior (Nat.mod_lt _ (by decide)) (Nat.mod_lt _ (by decide))

end Flattening.Sides
