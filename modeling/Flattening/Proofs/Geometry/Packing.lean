import Flattening.Geometry.Cell
import Mathlib.Data.Nat.Bitwise

/-!
# Cells as packed numbers

The number of a cell holds its coordinates in four bits each, and the number of a cell of a chunk
has that of its section in front of them.  The height takes eight bits, those of the section and of
the coordinate within it.

* `Cell.val_of_eq_packed`, `Cell.coordinates_eq`   a cell, put together and taken apart;
* `ColumnCell.val_ofParts_eq_packed`, `ColumnCell.parts_eq`   so for a cell of a chunk;
* `ColumnCell.withinChunk_eq_and`                  four bits of a difference that wraps;
* `ColumnCell.val_of_ofWorld?`                     the cell of a block by its height.
-/

namespace Flattening

/-- Where the low part has only the bits that are free, packing is adding. -/
theorem shiftLeft_or_eq_add {n b : Nat} (hb : b < 2 ^ n) (a : Nat) :
    a <<< n ||| b = a * 2 ^ n + b := by
  rw [← Nat.shiftLeft_add_eq_or_of_lt hb, Nat.shiftLeft_eq]

theorem and_fifteen (n : Nat) : n &&& 15 = n % 16 := Nat.and_two_pow_sub_one_eq_mod n 4

/-- Three parts, the two lower ones of four bits. -/
theorem packed_eq_add {x z : Nat} (hx : x < 16) (hz : z < 16) (y : Nat) :
    y <<< 8 ||| z <<< 4 ||| x = y * 256 + z * 16 + x := by
  have hlow : z <<< 4 ||| x = z * 16 + x := shiftLeft_or_eq_add hx z
  have hlt : z * 16 + x < 2 ^ 8 := by omega
  rw [Nat.or_assoc, hlow, shiftLeft_or_eq_add hlt]
  omega

/-! ## a section -/

namespace Cell

theorem val_of_eq_packed (x y z : Nat) :
    (of x y z).val = (y &&& 15) <<< 8 ||| (z &&& 15) <<< 4 ||| (x &&& 15) := by
  simp only [and_fifteen]
  exact (packed_eq_add (Nat.mod_lt _ (by decide)) (Nat.mod_lt _ (by decide)) _).symm

theorem coordinates_eq (c : Cell) :
    c.x = c.val &&& 15 ∧ c.y = c.val >>> 8 &&& 15 ∧ c.z = c.val >>> 4 &&& 15 := by
  have hy : c.val / 256 % 16 = c.val / 256 := Nat.mod_eq_of_lt (Nat.div_lt_of_lt_mul c.isLt)
  simp only [and_fifteen, Nat.shiftRight_eq_div_pow]
  exact ⟨rfl, hy.symm, rfl⟩

end Cell

/-! ## a chunk -/

namespace ColumnCell

theorem val_ofParts_eq_packed (s c : Nat) :
    (ofParts s c).val = (s &&& 15) <<< 12 ||| (c &&& 0xfff) := by
  have hcell : c &&& 0xfff = c % 4096 := Nat.and_two_pow_sub_one_eq_mod c 12
  have hlt : c % 4096 < 2 ^ 12 := Nat.mod_lt c (by decide)
  rw [and_fifteen, hcell, shiftLeft_or_eq_add hlt]
  rfl

theorem parts_eq (i : ColumnCell) :
    i.sectionY.val = i.val >>> 12 ∧ i.cell.val = i.val &&& 0xfff := by
  have hcell : i.val &&& 0xfff = i.val % 4096 := Nat.and_two_pow_sub_one_eq_mod i.val 12
  rw [hcell, Nat.shiftRight_eq_div_pow]
  exact ⟨rfl, rfl⟩

/-- Numbers that are cut to 32 bits keep their remainder, since 16 divides `2 ^ 32`. -/
theorem bmod_emod (n : Int) : n.bmod (2 ^ 32) % 16 = n % 16 := by
  have hdvd : (16 : Int) ∣ ((2 ^ 32 : Nat) : Int) := by decide
  rw [← Int.emod_emod_of_dvd _ hdvd, Int.bmod_emod, Int.emod_emod_of_dvd _ hdvd]

/-- The low four bits are the remainder, that of a negative number too. -/
theorem toInt_and_fifteen (n : Int32) : (n &&& 15).toInt = n.toInt % 16 := by
  have hbits : (n &&& 15).toBitVec.toNat = n.toBitVec.toNat % 16 := by
    rw [Int32.toBitVec_and, BitVec.toNat_and]
    exact and_fifteen _
  have hlow : (n &&& 15).toInt = (n.toBitVec.toNat % 16 : Nat) := by
    rw [← Int32.toInt_toBitVec, BitVec.toInt_eq_toNat_of_lt (by rw [hbits]; omega), hbits]
  rw [hlow, ← Int32.toInt_toBitVec n, BitVec.toInt_eq_toNat_bmod, bmod_emod]
  rfl

theorem withinChunk_eq_and (v chunk : Int32) :
    (withinChunk v chunk : Int) = ((v - chunk * 16) &&& 15).toInt := by
  rw [toInt_and_fifteen, withinChunk, Int.toNat_of_nonneg (Int.emod_nonneg _ (by decide))]

theorem val_of_ofWorld? {chunkX chunkZ x y z : Int32} {i : ColumnCell}
    (h : ofWorld? chunkX chunkZ x y z = some i) :
    i.val = y.toInt.toNat <<< 8 ||| withinChunk z chunkZ <<< 4 ||| withinChunk x chunkX := by
  rw [packed_eq_add (withinChunk_lt x chunkX) (withinChunk_lt z chunkZ)]
  rw [ofWorld?] at h
  split at h
  · cases h
    rfl
  · cases h

end ColumnCell

end Flattening
