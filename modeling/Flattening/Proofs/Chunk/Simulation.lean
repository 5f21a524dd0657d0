import Flattening.Proofs.Chunk.Frame
import Flattening.Proofs.Rule.Refinement

/-!
# A chunk shows the states written to it

A chunk takes a state only where a section is decoded; there the state replaces the old one and
no other cell changes.  Which sections are decoded is part of the frame, so it stays.

* `Lands`         states written to the cell land;
* `showsWrites`   a chunk does what its view does, as long as states land.
-/

namespace Flattening.Chunk

/-- The section of the cell is decoded. -/
def Lands (c : Chunk) (i : ColumnCell) : Prop :=
  ∃ s, c.sections.get i.sectionY = some s ∧ s.decoded?.isSome

theorem lands_of_frame_eq {c c' : Chunk} (h : c'.frame = c.frame) {i : ColumnCell}
    (hc : c.Lands i) : c'.Lands i := by
  obtain ⟨s, hs, hd⟩ := hc
  obtain ⟨s', hs', hf⟩ := exists_get_of_frame_eq h.symm hs
  have hd' : s'.decoded?.isSome = s.decoded?.isSome := congrArg SectionFrame.isDecoded hf
  exact ⟨s', hs', hd'.trans hd⟩

theorem lands_of_block_ne {c : Chunk} {i : ColumnCell} (h : c.block i ≠ .air) : c.Lands i := by
  unfold block at h
  split at h
  · rename_i s hs
    refine ⟨s, hs, ?_⟩
    cases hd : s.decoded? with
    | none =>
      rw [Section.block, hd] at h
      exact absurd rfl h
    | some d => rfl
  · exact absurd rfl h

theorem block_setBlock_self {c : Chunk} {i : ColumnCell} (h : c.Lands i) (b : BlockState) :
    (c.setBlock i b).block i = b := by
  obtain ⟨s, hs, hd⟩ := h
  obtain ⟨d, hd⟩ := Option.isSome_iff_exists.1 hd
  have hget : (c.setBlock i b).sections.get i.sectionY = some (s.setBlock i.cell b) := by
    rw [get_setBlock, hs]
    simp
  rw [block, hget]
  exact Section.block_setBlock_self hd i.cell b

/-- **A chunk does what its view does**, as long as states land. -/
theorem showsWrites : ShowsWrites Lands where
  block_self := fun _ _ b h => block_setBlock_self h b
  block_ne := fun c _ b _ hj => block_setBlock_ne hj c b
  record?_setBlock := fun _ _ _ => rfl
  fromAlpha_setBlock := fun _ _ _ => rfl
  record?_self := record?_consume_self
  record?_ne := fun c _ _ hj => BlockEntities.get?_remove_ne hj c.entities
  fromAlpha_consume := fun _ _ => rfl
  lands_setBlock := by
    intro c i b j
    have hframe := c.frame_setBlock i b
    exact ⟨lands_of_frame_eq hframe.symm, lands_of_frame_eq hframe⟩
  lands_consume := fun _ _ _ => Iff.rfl
  lands_of_ne_air := fun _ _ h => lands_of_block_ne h

end Flattening.Chunk
