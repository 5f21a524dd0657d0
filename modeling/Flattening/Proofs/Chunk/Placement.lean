import Flattening.Proofs.Chunk.RecordList
import Flattening.Proofs.Geometry.Packing

/-!
# Where a block of the world stands in its chunk

The cell of a block is found with numbers that wrap at 32 bits.  What wraps is a multiple of 16, so
the place along `x` and `z` is the one of the exact numbers; and the two ways to number the cells,
by height and by section, agree.

* `withinChunk_eq`         the place along one axis, however the numbers wrap;
* `ofWorld?_eq_none_iff`   a block has no cell just when no chunk has its height;
* `ofWorld?_of_height`     its cell by section and place in the section;
* `ofWorld?_eq_some_iff`   its cell by coordinates;
* `eq_of_within`           the blocks that one chunk encloses have different cells.
-/

namespace Flattening

/-- The chunk reaches over the coordinate, all numbers taken exactly. -/
def Encloses (chunk v : Int32) : Prop :=
  16 * chunk.toInt ≤ v.toInt ∧ v.toInt ≤ 16 * chunk.toInt + 15

namespace ColumnCell

/-! ## one axis -/

/-- **The place along an axis is the exact one**, whether the product or the difference wraps. -/
theorem withinChunk_eq (v chunk : Int32) : (withinChunk v chunk : Int) = v.toInt % 16 := by
  have hsixteen : (16 : Int32).toInt = 16 := by decide
  have hwrap : (v - chunk * 16).toInt % 16 = v.toInt % 16 := by
    rw [Int32.toInt_sub, bmod_emod, Int32.toInt_mul, hsixteen, Int.sub_emod, bmod_emod,
      ← Int.sub_emod, Int.mul_comm, Int.sub_mul_emod_self_left]
  rw [withinChunk, hwrap, Int.toNat_of_nonneg (Int.emod_nonneg _ (by decide))]

theorem toNat_emod_eq (v chunk : Int32) : (v.toInt % 16).toNat = withinChunk v chunk := by
  rw [← withinChunk_eq v chunk, Int.toNat_natCast]

/-- Two coordinates that a chunk encloses are told apart by their remainders. -/
theorem eq_of_encloses_of_emod_eq {chunk v w : Int32} (hv : Encloses chunk v)
    (hw : Encloses chunk w) (h : v.toInt % 16 = w.toInt % 16) : v = w := by
  obtain ⟨hv0, hv1⟩ := hv
  obtain ⟨hw0, hw1⟩ := hw
  exact Int32.toInt_inj.1 (by omega)

/-! ## the cell -/

variable {chunkX chunkZ x y z : Int32}

theorem ofWorld?_eq_none_iff :
    ofWorld? chunkX chunkZ x y z = none ↔ ¬(0 ≤ y.toInt ∧ y.toInt ≤ 255) := by
  rw [ofWorld?]
  split
  · rename_i h
    exact ⟨fun hi => absurd hi (Option.some_ne_none _), fun hn => absurd ⟨h.1, by omega⟩ hn⟩
  · rename_i h
    exact ⟨fun _ hy => h ⟨hy.1, by omega⟩, fun _ => rfl⟩

/-- The number by height and the number by section and cell are the same. -/
theorem ofWorld?_of_height (h : 0 ≤ y.toInt ∧ y.toInt ≤ 255) :
    ofWorld? chunkX chunkZ x y z = some (ofParts (y.toInt / 16).toNat
      (Cell.of (x.toInt % 16).toNat (y.toInt % 16).toNat (z.toInt % 16).toNat).val) := by
  have hx := toNat_emod_eq x chunkX
  have hz := toNat_emod_eq z chunkZ
  have hs : (y.toInt / 16).toNat = y.toInt.toNat / 16 := by omega
  have hl : (y.toInt % 16).toNat = y.toInt.toNat % 16 := by omega
  have hlt : y.toInt.toNat < 256 := by omega
  have hxlt := withinChunk_lt x chunkX
  have hzlt := withinChunk_lt z chunkZ
  have hy : 0 ≤ y.toInt ∧ y.toInt < 256 := ⟨h.1, by omega⟩
  rw [ofWorld?, dif_pos hy, Option.some.injEq, hx, hz, hs, hl, Fin.ext_iff]
  clear hx hz hs hl
  simp only [ofParts, of, Cell.of]
  omega

theorem sectionY_ofParts (s c : Nat) : (ofParts s c).sectionY.val = s % 16 := by
  rw [ofParts, sectionY_of]

theorem cell_ofParts (s : Nat) (c : Cell) : (ofParts s c.val).cell = c := by
  rw [ofParts, cell_of, Fin.ext_iff]
  exact Nat.mod_eq_of_lt c.isLt

theorem ofParts_sectionY_cell (i : ColumnCell) : ofParts i.sectionY.val i.cell.val = i := by
  rw [← Fin.val_inj]
  simp only [ofParts, of, sectionY, cell]
  omega

/-- The cell of a block by its coordinates: those along `x` and `z` are remainders, and the height
is the one of the cell. -/
theorem ofWorld?_eq_some_iff {i : ColumnCell} : ofWorld? chunkX chunkZ x y z = some i ↔
    (i.cell.x : Int) = x.toInt % 16 ∧ (i.cell.z : Int) = z.toInt % 16 ∧
      (16 * i.sectionY.val + i.cell.y : Int) = y.toInt := by
  have hsection := i.sectionY.isLt
  have hlevel : i.cell.y < 16 := Nat.div_lt_of_lt_mul i.cell.isLt
  by_cases h : 0 ≤ y.toInt ∧ y.toInt ≤ 255
  · rw [ofWorld?_of_height h, Option.some.injEq]
    constructor
    · rintro rfl
      rw [cell_ofParts, sectionY_ofParts, Cell.x_of, Cell.y_of, Cell.z_of]
      omega
    · rintro ⟨hx, hz, hy⟩
      have hs : (y.toInt / 16).toNat = i.sectionY.val := by omega
      have hl : (y.toInt % 16).toNat = i.cell.y := by omega
      rw [← hx, ← hz, hs, hl, Int.toNat_natCast, Int.toNat_natCast, Cell.of_coordinates,
        ofParts_sectionY_cell]
  · rw [ofWorld?_eq_none_iff.2 h]
    refine iff_of_false (Option.some_ne_none i).symm fun hi => h ?_
    rw [← hi.2.2]
    omega

/-- A block that the chunk encloses stands where its cell does. -/
theorem add_of_encloses {chunk v : Int32} {n : Nat} (hv : Encloses chunk v)
    (hn : (n : Int) = v.toInt % 16) : 16 * chunk.toInt + n = v.toInt := by
  obtain ⟨hlow, hhigh⟩ := hv
  omega

end ColumnCell

namespace BlockEntities

/-- The chunk encloses the place, whatever its height. -/
def Within (chunkX chunkZ : Int32) (p : Int32 × Int32 × Int32) : Prop :=
  Encloses chunkX p.1 ∧ Encloses chunkZ p.2.2

/-- Places of one cell that the chunk encloses are one place. -/
theorem eq_of_within {chunkX chunkZ : Int32} {p q : Int32 × Int32 × Int32} {i : ColumnCell}
    (hp : Within chunkX chunkZ p) (hq : Within chunkX chunkZ q)
    (hi : ColumnCell.ofWorld? chunkX chunkZ p.1 p.2.1 p.2.2 = some i)
    (hj : ColumnCell.ofWorld? chunkX chunkZ q.1 q.2.1 q.2.2 = some i) : p = q := by
  obtain ⟨hpx, hpz, hpy⟩ := ColumnCell.ofWorld?_eq_some_iff.1 hi
  obtain ⟨hqx, hqz, hqy⟩ := ColumnCell.ofWorld?_eq_some_iff.1 hj
  have hx := ColumnCell.eq_of_encloses_of_emod_eq hp.1 hq.1 (hpx.symm.trans hqx)
  have hz := ColumnCell.eq_of_encloses_of_emod_eq hp.2 hq.2 (hpz.symm.trans hqz)
  have hy := Int32.toInt_inj.1 (hpy.symm.trans hqy)
  exact Prod.ext hx (Prod.ext hy hz)

end BlockEntities

open BlockEntities

/-- **Blocks of the world are found at their cells, however the numbers wrap.**  A block without a
cell has a height that no chunk has.  Any other has the cell that its section and its remainders
make up; these are the remainders of the exact differences too, and packed behind the height they
give the same number.  Taken apart again the cell gives the section and the place of the block.  So
two block entities that the chunk encloses share a cell only if they stand at the same place. -/
theorem ColumnCell.world_blocks_addressed (chunkX chunkZ x y z : Int32) :
    (ofWorld? chunkX chunkZ x y z = none ↔ ¬(0 ≤ y.toInt ∧ y.toInt ≤ 255)) ∧
    (0 ≤ y.toInt ∧ y.toInt ≤ 255 → ofWorld? chunkX chunkZ x y z =
      some (ofParts (y.toInt / 16).toNat
        (Cell.of (x.toInt % 16).toNat (y.toInt % 16).toNat (z.toInt % 16).toNat).val)) ∧
    (∀ v chunk : Int32, (withinChunk v chunk : Int) = v.toInt % 16 ∧
      v.toInt % 16 = (v.toInt - 16 * chunk.toInt) % 16) ∧
    (∀ i, ofWorld? chunkX chunkZ x y z = some i →
      i.val = y.toInt.toNat <<< 8 ||| (z.toInt % 16).toNat <<< 4 ||| (x.toInt % 16).toNat ∧
      (i.sectionY.val : Int) = y.toInt / 16 ∧
      i.cell = Cell.of (x.toInt % 16).toNat (y.toInt % 16).toNat (z.toInt % 16).toNat ∧
      (Encloses chunkX x → 16 * chunkX.toInt + i.cell.x = x.toInt) ∧
      (Encloses chunkZ z → 16 * chunkZ.toInt + i.cell.z = z.toInt)) ∧
    ∀ t u p q i, coordinates? t = some p → coordinates? u = some q →
      Within chunkX chunkZ p → Within chunkX chunkZ q →
      cellOf? chunkX chunkZ t = some i → cellOf? chunkX chunkZ u = some i → p = q := by
  refine ⟨ofWorld?_eq_none_iff, ofWorld?_of_height, fun v chunk => ⟨withinChunk_eq v chunk, ?_⟩,
    fun i hi => ?_, fun t u p q i ht hu hp hq hi hj => ?_⟩
  · rw [Int.sub_mul_emod_self_left]
  · obtain ⟨hx, hz, hy⟩ := ofWorld?_eq_some_iff.1 hi
    have hheight : 0 ≤ y.toInt ∧ y.toInt ≤ 255 :=
      Decidable.byContradiction fun h => by
        rw [ofWorld?_eq_none_iff.2 h] at hi
        cases hi
    have hpacked := val_of_ofWorld? hi
    rw [ofWorld?_of_height hheight, Option.some.injEq] at hi
    refine ⟨?_, ?_, ?_, fun h => add_of_encloses h hx, fun h => add_of_encloses h hz⟩
    · rw [toNat_emod_eq x chunkX, toNat_emod_eq z chunkZ, hpacked]
    · rw [← hi, sectionY_ofParts]
      omega
    · rw [← hi, cell_ofParts]
  · rw [cellOf?, ht, Option.bind_some] at hi
    rw [cellOf?, hu, Option.bind_some] at hj
    exact eq_of_within hp hq hi hj

/-- a record in a corner of what the numbers reach -/
def cornerRecord : Tag :=
  .compound [("x", .int 2147483647), ("y", .short 255), ("z", .int (-2147483648))]

/-- the same place by a number that is cut to it -/
def wideCornerRecord : Tag :=
  .compound [("x", .long 6442450943), ("y", .short 255), ("z", .int (-2147483648))]

/-- A block in the opposite corner, and the two records of this one. -/
theorem ColumnCell.world_blocks_addressed_corners :
    ofWorld? 134217727 (-134217728) (-2147483648) 255 2147483647 =
        some (ofParts 15 (Cell.of 0 15 15).val) ∧
      ((ofParts 15 (Cell.of 0 15 15).val).sectionY.val : Int) = 15 ∧
      (ofParts 15 (Cell.of 0 15 15).val).cell = Cell.of 0 15 15 ∧
      ∃ p q i, coordinates? cornerRecord = some p ∧ coordinates? wideCornerRecord = some q ∧
        cellOf? 134217727 (-134217728) cornerRecord = some i ∧
        cellOf? 134217727 (-134217728) wideCornerRecord = some i ∧ p = q := by
  obtain ⟨-, hsome, -, hparts, hshared⟩ :=
    world_blocks_addressed 134217727 (-134217728) (-2147483648) 255 2147483647
  have hcell := hsome (by decide)
  obtain ⟨-, hsection, hat, -, -⟩ := hparts _ hcell
  refine ⟨hcell, hsection, hat, (2147483647, 255, -2147483648), (2147483647, 255, -2147483648),
    .ofParts 15 (Cell.of 15 15 0).val, rfl, rfl, rfl, rfl, ?_⟩
  have hwithin : Within 134217727 (-134217728) (2147483647, 255, -2147483648) :=
    ⟨⟨by decide, by decide⟩, by decide, by decide⟩
  exact hshared cornerRecord wideCornerRecord _ _ _ rfl rfl hwithin hwithin rfl rfl

end Flattening
