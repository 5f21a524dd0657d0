import Flattening.Proofs.Chunk.Simulation
import Flattening.Proofs.Rule.Independence

/-!
# What lies in each cell of a level

Each cell of a section with block data has a block id and the state of its legacy number; all
other cells have neither and are air.

* `Decoding.block_eq`     decoding gives each cell the state of its number;
* `Decoding.id?_of_group` a group waits for cells of its block id only, and states written to
  them land;
* `Decoding.exists_group`   and all cells of a block id that has a rule wait;
* `Decoding.groups_pairwise`  groups of one block id wait from below;
* `Decoding.layout`       the block ids, and what neighbours see of the cells.
-/

namespace Flattening

def Section.legacy? (s : Section) : Option LegacyLayers :=
  match s.content with
  | .legacy l => some l
  | _ => none

theorem Section.decoded?_decode_of_ofTag? {t : Tag} {s : Section} (h : ofTag? t = .ok s) :
    s.decode.decoded? = s.legacy?.map DecodedCells.decode := by
  obtain ⟨m, y, -, -, ⟨-, rfl⟩ | ⟨l, -, rfl⟩⟩ := ofTag?_eq_ok_iff.1 h
  · rfl
  · rfl

namespace Chunk.Decoding

variable {level : Tag} {log log' : Array Event} {c : Chunk} (d : Decoding level log log' c)

/-- the legacy layers at a height, none without block data -/
def layers? (y : Fin 16) : Option LegacyLayers := (d.placed.get y).bind Section.legacy?

def id? (i : ColumnCell) : Option Nat := (d.layers? i.sectionY).map fun l => l.block i.cell

/-- the state of a cell by its number alone, whatever lies around it -/
def state (i : ColumnCell) : BlockState :=
  match d.layers? i.sectionY with
  | some l => l.state i.cell
  | none => .air

theorem decoded?_of_get {y : Fin 16} {s : Section} (hs : c.sections.get y = some s) :
    s.decoded? = (d.layers? y).map DecodedCells.decode := by
  rw [d.get_sections, Option.map_eq_some_iff] at hs
  obtain ⟨s₀, hs₀, rfl⟩ := hs
  obtain ⟨t, -, ht⟩ := (get_placed d.placed_eq).1 hs₀
  rw [Section.decoded?_decode_of_ofTag? ht, layers?, hs₀]
  rfl

/-- Decoding gives each cell the state of its number. -/
theorem block_eq (i : ColumnCell) : c.block i = d.state i := by
  unfold block
  cases hs : c.sections.get i.sectionY with
  | none =>
    rw [d.get_sections, Option.map_eq_none_iff] at hs
    rw [state, layers?, hs]
    rfl
  | some s =>
    have hd := d.decoded?_of_get hs
    dsimp only
    rw [Section.block, hd, state]
    cases d.layers? i.sectionY with
    | none => rfl
    | some l => exact DecodedCells.block_decode l i.cell

theorem lands_of_layers? {i : ColumnCell} {l : LegacyLayers} (h : d.layers? i.sectionY = some l) :
    c.Lands i := by
  obtain ⟨s₀, hs₀, hl⟩ := Option.bind_eq_some_iff.1 h
  have hs : c.sections.get i.sectionY = some s₀.decode := by
    rw [d.get_sections, hs₀]
    rfl
  refine ⟨s₀.decode, hs, ?_⟩
  rw [d.decoded?_of_get hs, h]
  rfl

/-- States land where there are layers, and nowhere else. -/
theorem lands_iff {i : ColumnCell} : c.Lands i ↔ (d.layers? i.sectionY).isSome := by
  constructor
  · rintro ⟨s, hs, hdecoded⟩
    rw [d.decoded?_of_get hs, Option.isSome_map] at hdecoded
    exact hdecoded
  · intro h
    obtain ⟨l, hl⟩ := Option.isSome_iff_exists.1 h
    exact d.lands_of_layers? hl

/-! ## groups -/

theorem exists_pending_of_group {g : Group} (hg : g ∈ c.groups) :
    ∃ l, d.layers? g.y = some l ∧ (g.block, g.cells) ∈ l.pending := by
  obtain ⟨s, hs, hgs⟩ := List.mem_flatMap.1 hg
  obtain ⟨⟨b, cells⟩, hp, rfl⟩ := List.mem_map.1 hgs
  obtain ⟨y, hy⟩ := mem_kept.1 hs
  have hsy : s.y = y := d.y_of_get hy
  have hd := d.decoded?_of_get hy
  rw [Section.pending, hd] at hp
  dsimp only
  rw [hsy]
  cases hl : d.layers? y with
  | none =>
    rw [hl] at hp
    cases hp
  | some l =>
    rw [hl, Option.map_some] at hp
    dsimp only at hp
    rw [DecodedCells.waiting_decode] at hp
    exact ⟨l, rfl, hp⟩

/-- **A group waits for cells of its block id**, and the section of each is decoded. -/
theorem id?_of_group {g : Group} (hg : g ∈ c.groups) :
    ∀ i ∈ g.columnCells, d.id? i = some g.block ∧ c.Lands i := by
  obtain ⟨l, hl, hp⟩ := d.exists_pending_of_group hg
  intro i hi
  obtain ⟨cell, hcell, rfl⟩ := List.mem_map.1 hi
  rw [← (l.mem_pending.1 hp).2.1] at hcell
  have hblock : l.block cell = g.block := l.mem_cellsOf.1 hcell
  have hl' : d.layers? (ColumnCell.of g.y cell).sectionY = some l := by
    rw [ColumnCell.sectionY_of, hl]
  refine ⟨?_, d.lands_of_layers? hl'⟩
  rw [id?, hl', Option.map_some, ColumnCell.cell_of, hblock]

/-- Every cell of a block id that has a rule waits for it. -/
theorem exists_group {i : ColumnCell} {b : Nat} (h : d.id? i = some b)
    (hb : b ∈ Rule.ruledBlocks) : ∃ g ∈ c.groups, g.block = b ∧ i ∈ g.columnCells := by
  obtain ⟨l, hl, hlb⟩ := Option.map_eq_some_iff.1 h
  obtain ⟨s₀, hs₀, -⟩ := Option.bind_eq_some_iff.1 hl
  have hs : c.sections.get i.sectionY = some s₀.decode := by
    rw [d.get_sections, hs₀]
    rfl
  have hpending : s₀.decode.pending = l.pending := by
    rw [Section.pending, d.decoded?_of_get hs, hl]
    exact DecodedCells.waiting_decode l
  have hcell : i.cell ∈ l.cellsOf b := l.mem_cellsOf.2 hlb
  have hwaits : (b, l.cellsOf b) ∈ l.pending :=
    l.mem_pending.2 ⟨hb, rfl, List.ne_nil_of_mem hcell⟩
  -- which cells these are does not matter any more
  generalize l.cellsOf b = cells at hcell hwaits
  refine ⟨⟨s₀.decode.y, b, cells⟩, ?_, rfl, ?_⟩
  · refine List.mem_flatMap.2 ⟨s₀.decode, mem_kept.2 ⟨_, hs⟩, ?_⟩
    rw [hpending]
    exact List.mem_map.2 ⟨_, hwaits, rfl⟩
  · refine List.mem_map.2 ⟨i.cell, hcell, ?_⟩
    rw [d.y_of_get hs, ColumnCell.of_sectionY_cell]

include d in
theorem lands_of_group {g : Group} (hg : g ∈ c.groups) :
    ∀ i ∈ g.columnCells, c.clearPending.Lands i := fun i hi =>
  lands_of_frame_eq c.frame_clearPending (d.id?_of_group hg i hi).2

include d in
theorem pairwise_kept : c.kept.Pairwise fun s t => s.y < t.y := by
  rw [kept_eq, List.pairwise_filterMap]
  refine (List.pairwise_lt_finRange 16).imp ?_
  intro y z hyz s hs t ht
  rw [d.y_of_get hs, d.y_of_get ht]
  exact hyz

include d in
/-- Groups of one block id wait from the lowest section up. -/
theorem groups_pairwise : c.groups.Pairwise fun g h => g.block = h.block → g.y < h.y := by
  rw [groups, List.pairwise_flatMap]
  constructor
  · intro s hs
    rw [List.pairwise_map]
    have hp : s.pending.Pairwise fun p q => p.1 < q.1 := by
      obtain ⟨y, hy⟩ := mem_kept.1 hs
      rw [Section.pending, d.decoded?_of_get hy]
      cases d.layers? y with
      | none => exact .nil
      | some l =>
        show (DecodedCells.decode l).waiting.Pairwise _
        rw [DecodedCells.waiting_decode]
        exact l.pairwise_pending
    exact hp.imp fun hlt heq => absurd heq (Nat.ne_of_lt hlt)
  · refine d.pairwise_kept.imp ?_
    intro s t hst g hg h hh _
    obtain ⟨p, -, rfl⟩ := List.mem_map.1 hg
    obtain ⟨q, -, rfl⟩ := List.mem_map.1 hh
    exact hst

/-! ## the layout -/

theorem sight_state_of_id? {i : ColumnCell} {b : Nat} (h : d.id? i = some b) :
    ∃ id : LegacyId, id.block = b ∧ d.state i = Legacy.state id := by
  obtain ⟨l, hl, rfl⟩ := Option.map_eq_some_iff.1 h
  refine ⟨l.legacyId i.cell, rfl, ?_⟩
  rw [state, hl]
  rfl

/-- All states of a block id pass a check that its row passes. -/
theorem state_passes {p : BlockState → Bool} {b : Nat} (hb : Legacy.everyState p b = true)
    {i : ColumnCell} (hi : d.id? i = some b) : p (d.state i) = true := by
  obtain ⟨id, rfl, hs⟩ := d.sight_state_of_id? hi
  rw [hs]
  exact Legacy.of_everyState hb

theorem sight_state_of_no_id {i : ColumnCell} (h : d.id? i = none) :
    (d.state i).sight = .other := by
  rw [id?, Option.map_eq_none_iff] at h
  rw [state, h]
  have hair : BlockState.air.sight = .other := by decide +kernel
  exact hair

def layout : Layout where
  ids := d.id?
  sight i := (d.state i).sight
  known := by
    intro i b x hi hx
    obtain ⟨id, rfl, hs⟩ := d.sight_state_of_id? hi
    rw [hs]
    exact Legacy.sight_state_of_known hx
  plant := by
    intro i hi
    cases hid : d.id? i with
    | none =>
      rw [d.sight_state_of_no_id hid] at hi
      cases hi
    | some b =>
      obtain ⟨id, rfl, hs⟩ := d.sight_state_of_id? hid
      rw [hs] at hi
      exact congrArg some ((Legacy.sight_state_plant_iff id).1 hi)
  door := by
    intro i n hi
    cases hid : d.id? i with
    | none =>
      rw [d.sight_state_of_no_id hid] at hi
      cases hi
    | some b =>
      obtain ⟨id, rfl, hs⟩ := d.sight_state_of_id? hid
      rw [hs] at hi
      exact ⟨id.block, rfl, (Legacy.sight_state_door_iff id n).1 hi⟩

theorem view_clearPending : CellStore.view c.clearPending = CellStore.view c := by
  have h : c.clearPending.block = c.block := by
    funext i
    unfold block
    rw [get_clearPending]
    cases c.sections.get i.sectionY with
    | none => rfl
    | some s => exact s.block_clearPending i.cell
  show View.mk c.clearPending.block _ _ = View.mk c.block _ _
  rw [h]
  rfl

theorem shows_view : d.layout.Shows (CellStore.view c) := by
  intro i
  show (c.block i).sight = (d.state i).sight
  rw [d.block_eq]

end Chunk.Decoding

end Flattening
