import Flattening.Proofs.Chunk.Listed
import Flattening.Proofs.Chunk.Order

/-!
# Blocks without a rule keep their state

A rule may write to a second cell, which it knows by the name of its state alone.  All the same
it writes to cells of its own block id only, so the cells of any other block id keep what they
had.

* `Decoding.block_settle_of_no_rule`   no rule reaches a block id that has none;
* `plain_blocks_kept`      such cells end with the state of their number, and what has no block
  data is air.
-/

namespace Flattening.Chunk

/-- Of all groups those of the block id of a cell decide its state, and without a rule they
decide nothing. -/
theorem Decoding.block_settle_of_no_rule {level : Tag} {log log' : Array Event} {c : Chunk}
    (d : Decoding level log log' c) {i : ColumnCell}
    (h : ∀ b, d.id? i = some b → Rule.ofBlock? b = none) :
    (c.settle log').1.block i = d.state i := by
  have hnone : ∀ g ∈ c.groups.filter fun g => some g.block = d.id? i,
      Rule.ofBlock? g.block = none := fun g hg =>
    h g.block (of_decide_eq_true (List.mem_filter.1 hg).2).symm
  rw [(d.settle_filter i).1, runGroups_of_no_rule hnone]
  exact d.block_eq i

/-- **The rules leave plain blocks alone.**  In the section that counts for its height, a cell
whose block id has no rule ends with the state of its number in the arrays, whatever its neighbours
are and whatever block entities the chunk has.  Where there is no block data all cells are air. -/
theorem plain_blocks_kept {level : Tag} {log log' : Array Event} {c : Chunk}
    (h : ofLevel level log = .ok c log') :
    ∃ tags, list? level "Sections" = .ok tags ∧
      (∀ y t, LastListed tags y t → (t.get? "Blocks").isSome → ∀ cell : Cell,
        Rule.ofBlock? (cellNumber t cell / 16) = none →
          c.block (.of y cell) = Legacy.state (.ofNumber (cellNumber t cell))) ∧
      ∀ y, (∀ t, LastListed tags y t → t.get? "Blocks" = none) →
        ∀ cell, c.block (.of y cell) = .air := by
  obtain ⟨c₀, mid, hc₀, rfl, -⟩ := ofLevel_eq_ok_iff.1 h
  obtain ⟨d⟩ := decode_eq_ok_iff.1 hc₀
  refine ⟨d.tags, d.tags_eq, fun y t ht hb cell hrule => ?_, fun y hy cell => ?_⟩
  · obtain ⟨s, hs⟩ := ofTag?_of_place d.placed_eq t (mem_of_lastListed ht)
    obtain ⟨hid, hstate⟩ := listed_cellNumber ht hs hb cell
    rw [d.block_settle_of_no_rule, d.state_of_listed hstate]
    intro b hb'
    rw [d.id?_eq, hid] at hb'
    rwa [← Option.some.inj hb']
  · have hl := d.layers?_eq_none hy
    rw [d.block_settle_of_no_rule, Decoding.state, ColumnCell.sectionY_of, hl]
    intro b hb
    rw [Decoding.id?, ColumnCell.sectionY_of, hl] at hb
    cases hb

/-- ids of a section whose lower half is doors and whose upper half is stone -/
def stoneAboveDoors : Vector Int8 4096 := Vector.ofFn fun c => if c.val < 2048 then 64 else 1

/-- such a section where each cell has the data value 3, and an odd one a block id beyond 255 -/
def dioriteAboveDoors (y : Fin 16) : Tag :=
  sectionWithAll y stoneAboveDoors (Vector.ofFn fun _ => 51) (Vector.ofFn fun _ => 16)

theorem cellNumber_dioriteAboveDoors (y : Fin 16) (c : Cell) :
    cellNumber (dioriteAboveDoors y) c =
      (if c.val % 2 = 0 then 0 else 4096) + 16 * (if c.val < 2048 then 64 else 1) + 3 := by
  rw [dioriteAboveDoors, cellNumber_sectionWithAll, stoneAboveDoors, Table.get_ofFn, halfByte,
    halfByte]
  split
  · split
    · rfl
    · rfl
  · split
    · rfl
    · rfl

/-- Right above the doors an even cell is diorite, an odd one, whose block id has no row, is air,
and so is the section above. -/
theorem plain_blocks_kept_above_doors :
    ∃ c log', ofLevel (levelOf [dioriteAboveDoors 3]) #[] = .ok c log' ∧
      c.block (.of 3 2048) = .plain "minecraft:diorite" ∧ c.block (.of 3 2049) = .air ∧
      ∀ cell, c.block (.of 4 cell) = .air := by
  have hread : ∀ t ∈ [dioriteAboveDoors 3], ∃ s, Section.ofTag? t = .ok s := by
    intro t ht
    rw [List.mem_singleton.1 ht]
    exact exists_ofTag?_sectionWithAll 3 _ _ _
  obtain ⟨c, log', h⟩ := exists_ofLevel_levelOf hread #[]
  obtain ⟨tags, htags, hplain, hair⟩ := plain_blocks_kept h
  obtain rfl : [dioriteAboveDoors 3] = tags := Except.ok.inj htags
  have hy : Section.y? (dioriteAboveDoors 3) = .ok 3 := y?_of_get? rfl
  have hlast : LastListed [dioriteAboveDoors 3] 3 (dioriteAboveDoors 3) :=
    ⟨[], [], rfl, hy, fun u hu => absurd hu List.not_mem_nil⟩
  have hcell := hplain 3 _ hlast rfl
  refine ⟨c, log', h, ?_, ?_, hair 4 fun t ht => ?_⟩
  · have hdiorite := hcell 2048
    rw [cellNumber_dioriteAboveDoors] at hdiorite
    exact hdiorite rfl
  · have hair := hcell 2049
    rw [cellNumber_dioriteAboveDoors] at hair
    exact hair rfl
  · have hmem := mem_of_lastListed ht
    obtain ⟨-, -, -, hy', -⟩ := ht
    rw [List.mem_singleton.1 hmem, hy] at hy'
    cases hy'

end Flattening.Chunk
