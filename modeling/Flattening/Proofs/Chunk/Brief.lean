import Flattening.Proofs.Chunk.Frame
import Flattening.Proofs.Rule.Brief

/-!
# The palettes of a chunk can be written

When a level is decoded its palettes hold states of the catalogue, and the rules add only brief
states to them.

* `Brief.view`      every cell of such a chunk has a brief state;
* `brief_settle`    the palettes stay brief while the rules run.
-/

namespace Flattening

namespace DecodedCells

variable {d : DecodedCells}

/-- Every state of the palette is brief. -/
def Brief (d : DecodedCells) : Prop := ∀ b ∈ d.palette.states, b.Brief

theorem Brief.block (h : d.Brief) (c : Cell) : (d.block c).Brief :=
  h _ (Array.mem_of_getElem? (d.get?_block c))

theorem Brief.setBlock (h : d.Brief) (c : Cell) {s : BlockState} (hs : s.Brief) :
    (d.setBlock c s).Brief := by
  intro b hb
  rcases Palette.mem_insert.1 hb with hb | rfl
  · exact h b hb
  · exact hs

theorem brief_decode (l : LegacyLayers) : (decode l).Brief := by
  intro b hb
  rw [palette_decode] at hb
  rcases Palette.mem_insertAll.1 hb with hb | hb
  · rcases Palette.mem_insert.1 hb with hb | rfl
    · exact absurd hb (Array.not_mem_empty b)
    · exact BlockState.brief_air
  · obtain ⟨c, -, rfl⟩ := List.mem_map.1 hb
    exact Legacy.brief_state _

end DecodedCells

namespace Chunk

/-- Every palette is brief. -/
def Brief (c : Chunk) : Prop := c.EveryDecoded DecodedCells.Brief

theorem Brief.view {c : Chunk} (h : c.Brief) (i : ColumnCell) :
    ((CellStore.view c).block i).Brief := by
  show (c.block i).Brief
  unfold block
  cases hs : c.sections.get i.sectionY with
  | none => exact BlockState.brief_air
  | some s =>
    show (s.block i.cell).Brief
    unfold Section.block
    cases hd : s.decoded? with
    | none => exact BlockState.brief_air
    | some d => exact (h i.sectionY s d hs hd).block i.cell

theorem Brief.setBlock {c : Chunk} (h : c.Brief) (i : ColumnCell) {b : BlockState}
    (hb : b.Brief) : (c.setBlock i b).Brief :=
  EveryDecoded.setBlock h (fun _ hd => hd.setBlock i.cell hb) (fun _ hd => hd)

theorem Brief.clearPending {c : Chunk} (h : c.Brief) : c.clearPending.Brief :=
  EveryDecoded.clearPending h fun _ hd => hd

theorem runInvariant_brief : RunInvariant fun (_ : Nat) (c : Chunk) => c.Brief :=
  runInvariant_of_writes (Q := BlockState.Brief) (fun _ _ _ _ h => h)
    (fun _ _ _ _ _ he h => Rule.brief_of_plan he h.view)
    (fun _ _ i _ hb h => h.setBlock i hb)
    (fun _ _ _ h => h)

/-- **The palettes of a decoded level stay brief** while the rules run. -/
theorem Decoding.brief_settle {level : Tag} {log log' : Array Event} {c : Chunk}
    (d : Decoding level log log' c) (log₁ : Array Event) : (c.settle log₁).1.Brief := by
  have hc : c.Brief := by
    intro y s cells hs hd
    obtain ⟨l, rfl⟩ := d.exists_layers hs hd
    exact DecodedCells.brief_decode l
  exact runInvariant_brief.runGroups (n := 0) c.groups log₁ hc.clearPending

end Chunk

end Flattening
