import Flattening.Proofs.Chunk.Listed
import Flattening.Proofs.Chunk.ReadBack
import Flattening.Proofs.Chunk.UpgradeTag
import Flattening.Proofs.Geometry.Sides
import Flattening.Proofs.Legacy.IdSet

/-!
# The upgrade data list the work at the border

A cell is sensitive when the shape of its block follows from its neighbours.  A sensitive cell
at the border of the chunk is left to the neighbour that it touches, so its side is noted; any
other one is listed under its section.  Nothing else is noted or listed, and each sensitive cell
is found in exactly one place.

* `isSensitiveAt_iff`            which cells are sensitive, as the arrays say;
* `Decoding.contains_sides`      the sides are those that sensitive cells touch;
* `Decoding.deferred_of_get`     a section defers its sensitive cells that touch no side;
* `get?_indices`                 what is listed for a section are its deferred cells;
* `upgradeData_lists_boundary`   what a level's upgrade data hold, in the tag as well.
-/

namespace Flattening.Chunk

/-- In the last section listed for its height the cell has a block id whose shape follows from its
neighbours; the block id is what the arrays `Blocks` and `Add` say. -/
def SensitiveAt (tags : List Tag) (i : ColumnCell) : Prop :=
  ∃ t, LastListed tags i.sectionY t ∧ (t.get? "Blocks").isSome ∧
    cellNumber t i.cell / 16 ∈ Legacy.sensitiveBlocks

/-- The block id that the cell is decoded by is one of those. -/
def isSensitiveAt (tags : List Tag) (i : ColumnCell) : Bool :=
  (listedId? tags i).any Legacy.isSensitive

/-- the sensitive cells of a section that touch no side -/
def deferredCells (tags : List Tag) (y : Fin 16) : List Cell :=
  Cell.all.filter fun cell =>
    isSensitiveAt tags (.of y cell) && (Sides.ofEdge cell.x cell.z).isEmpty

theorem isSensitiveAt_of_layers {tags : List Tag} {i : ColumnCell} {l : LegacyLayers}
    (h : listedLayers? tags i.sectionY = some l) :
    isSensitiveAt tags i = Legacy.isSensitive (l.block i.cell) := by
  rw [isSensitiveAt, listedId?, h]
  rfl

theorem isSensitiveAt_of_no_layers {tags : List Tag} {i : ColumnCell}
    (h : listedLayers? tags i.sectionY = none) : isSensitiveAt tags i = false := by
  rw [isSensitiveAt, listedId?, h]
  rfl

theorem block_lt (l : LegacyLayers) (cell : Cell) : l.block cell < 4096 := by
  have hid := (l.ids.get cell).toNat_lt
  show l.add.get cell % 16 * 256 + (l.ids.get cell).toNat < 4096
  omega

theorem isSensitiveAt_iff_listedId? {tags : List Tag} {i : ColumnCell} :
    isSensitiveAt tags i = true ↔ ∃ b ∈ Legacy.sensitiveBlocks, listedId? tags i = some b := by
  cases hl : listedLayers? tags i.sectionY with
  | none =>
    rw [isSensitiveAt_of_no_layers hl, listedId?, hl]
    simp
  | some l =>
    rw [isSensitiveAt_of_layers hl, Legacy.isSensitive_iff (block_lt l i.cell), listedId?, hl,
      Option.map_some]
    simp

/-- **The cells taken for sensitive are those that the arrays say are.** -/
theorem isSensitiveAt_iff {tags : List Tag} (hread : ∀ t ∈ tags, ∃ s, Section.ofTag? t = .ok s)
    {i : ColumnCell} : isSensitiveAt tags i = true ↔ SensitiveAt tags i := by
  rw [isSensitiveAt_iff_listedId?, ← ColumnCell.of_sectionY_cell i, SensitiveAt,
    ColumnCell.sectionY_of, ColumnCell.cell_of]
  simp only [listedId?_eq_some_iff hread]
  constructor
  · rintro ⟨b, hb, t, ht, hblocks, rfl⟩
    exact ⟨t, ht, hblocks, hb⟩
  · rintro ⟨t, ht, hblocks, hb⟩
    exact ⟨_, hb, t, ht, hblocks, rfl⟩

theorem mem_deferredCells {tags : List Tag} {y : Fin 16} {cell : Cell} :
    cell ∈ deferredCells tags y ↔ isSensitiveAt tags (.of y cell) = true ∧
      (1 ≤ cell.x ∧ cell.x ≤ 14) ∧ 1 ≤ cell.z ∧ cell.z ≤ 14 := by
  rw [deferredCells, List.mem_filter, Bool.and_eq_true, Sides.isEmpty_ofEdge_iff]
  exact and_iff_right (Cell.mem_all cell)

theorem pairwise_deferredCells (tags : List Tag) (y : Fin 16) :
    (deferredCells tags y).Pairwise fun a b => a < b :=
  (List.pairwise_lt_finRange 4096).sublist List.filter_sublist

/-! ## the number of a cell -/

theorem toNat_cell (a : Cell) : (UInt16.ofNat a.val).toNat = a.val :=
  UInt16.toNat_ofNat_of_lt' (by show a.val < 65536; omega)

theorem cell_lt {a b : Cell} (h : a < b) : UInt16.ofNat a.val < UInt16.ofNat b.val := by
  rw [UInt16.lt_iff_toNat_lt, toNat_cell, toNat_cell]
  exact h

theorem cell_inj {a b : Cell} (h : UInt16.ofNat a.val = UInt16.ofNat b.val) : a = b := by
  have h' := congrArg UInt16.toNat h
  rw [toNat_cell, toNat_cell] at h'
  exact Fin.ext h'

/-- The numbers in the list of a section are those of its sensitive cells that touch no side. -/
theorem mem_numbers (tags : List Tag) (y : Fin 16) (n : UInt16) :
    n ∈ ((deferredCells tags y).map fun i => UInt16.ofNat i.val) ↔
      ∃ cell : Cell, n = UInt16.ofNat cell.val ∧ isSensitiveAt tags (.of y cell) = true ∧
        (1 ≤ cell.x ∧ cell.x ≤ 14) ∧ 1 ≤ cell.z ∧ cell.z ≤ 14 := by
  have hmem : ∀ cell : Cell, cell ∈ deferredCells tags y ↔
      isSensitiveAt tags (.of y cell) = true ∧
        (1 ≤ cell.x ∧ cell.x ≤ 14) ∧ 1 ≤ cell.z ∧ cell.z ≤ 14 := fun _ => mem_deferredCells
  generalize deferredCells tags y = deferred at hmem
  rw [List.mem_map]
  constructor
  · rintro ⟨cell, hcell, rfl⟩
    exact ⟨cell, rfl, (hmem cell).1 hcell⟩
  · rintro ⟨cell, rfl, hcell⟩
    exact ⟨cell, (hmem cell).2 hcell, rfl⟩

/-! ## sides -/

theorem not_contains_empty {s : Sides} (hs : s ∈ Sides.single) :
    (∅ : Sides).contains s ≠ true := by
  have hall : ∀ s ∈ Sides.single, (∅ : Sides).contains s ≠ true := by decide
  exact hall s hs

theorem contains_layers_sides {s : Sides} (hs : s ∈ Sides.single) (l : LegacyLayers) :
    l.sides.contains s = true ↔
      ∃ cell, Legacy.isSensitive (l.block cell) = true ∧ Sides.ofEdge cell.x cell.z = s := by
  rw [LegacyLayers.sides, Sides.contains_foldl_union hs, or_iff_right (not_contains_empty hs)]
  constructor
  · rintro ⟨cell, hcell, h⟩
    exact ⟨cell, (List.mem_filter.1 hcell).2, (Sides.contains_ofEdge hs _ _).1 h⟩
  · rintro ⟨cell, hcell, h⟩
    exact ⟨cell, List.mem_filter.2 ⟨Cell.mem_all cell, hcell⟩,
      (Sides.contains_ofEdge hs _ _).2 h⟩

theorem contains_section_sides {s : Sides} (hs : s ∈ Sides.single) (k : Section) :
    k.sides.contains s = true ↔ ∃ l, k.legacy? = some l ∧ l.sides.contains s = true := by
  obtain ⟨y, m, content⟩ := k
  cases content with
  | legacy l =>
    have hsides : Section.sides ⟨y, m, .legacy l⟩ = l.sides := l.sides_scan
    rw [hsides]
    constructor
    · intro h
      exact ⟨l, rfl, h⟩
    · rintro ⟨l', hl, h⟩
      cases hl
      exact h
  | bare | decoded d =>
    refine ⟨fun h => absurd h (not_contains_empty hs), ?_⟩
    rintro ⟨l, hl, -⟩
    cases hl

namespace Decoding

variable {level : Tag} {log log' : Array Event} {c : Chunk} (d : Decoding level log log' c)

/-- **The sides of a chunk are those that its sensitive cells touch.** -/
theorem contains_sides {s : Sides} (hs : s ∈ Sides.single) :
    c.sides.contains s = true ↔
      ∃ i, isSensitiveAt d.tags i = true ∧ Sides.ofEdge i.cell.x i.cell.z = s := by
  rw [d.sides_eq, sidesOf, Sides.contains_foldl_union hs, or_iff_right (not_contains_empty hs)]
  -- a side of the chunk is one of a section, and a side of a section is one of a cell
  constructor
  · rintro ⟨k, hk, hsides⟩
    obtain ⟨y, hy⟩ := mem_present.1 hk
    obtain ⟨l, hl, hlsides⟩ := (contains_section_sides hs k).1 hsides
    obtain ⟨cell, hcell, hedge⟩ := (contains_layers_sides hs l).1 hlsides
    have hlayers : listedLayers? d.tags (ColumnCell.of y cell).sectionY = some l := by
      rw [← d.layers?_eq, ColumnCell.sectionY_of, layers?, hy]
      exact hl
    refine ⟨.of y cell, ?_, ?_⟩
    · rw [isSensitiveAt_of_layers hlayers, ColumnCell.cell_of]
      exact hcell
    · rw [ColumnCell.cell_of]
      exact hedge
  · rintro ⟨i, hi, hedge⟩
    cases hl : listedLayers? d.tags i.sectionY with
    | none =>
      rw [isSensitiveAt_of_no_layers hl] at hi
      cases hi
    | some l =>
      rw [isSensitiveAt_of_layers hl] at hi
      rw [← d.layers?_eq, layers?] at hl
      obtain ⟨k, hk, hkl⟩ := Option.bind_eq_some_iff.1 hl
      refine ⟨k, mem_present.2 ⟨i.sectionY, hk⟩, (contains_section_sides hs k).2 ⟨l, hkl, ?_⟩⟩
      exact (contains_layers_sides hs l).2 ⟨i.cell, hi, hedge⟩

theorem contains_sides_settle (log₁ : Array Event) {s : Sides} (hs : s ∈ Sides.single) :
    (c.settle log₁).1.sides.contains s = true ↔
      ∃ i, isSensitiveAt d.tags i = true ∧ Sides.ofEdge i.cell.x i.cell.z = s := by
  have hsides : (c.settle log₁).1.sides = c.sides :=
    congrArg ChunkFrame.sides (c.frame_settle log₁)
  rw [hsides]
  exact d.contains_sides hs

/-! ## deferred cells -/

theorem deferred_eq {y : Fin 16} {l : LegacyLayers} (h : listedLayers? d.tags y = some l) :
    l.deferred = deferredCells d.tags y := by
  have hcell : ∀ cell : Cell, isSensitiveAt d.tags (.of y cell) =
      Legacy.isSensitive (l.block cell) := by
    intro cell
    have hlayers : listedLayers? d.tags (ColumnCell.of y cell).sectionY = some l := by
      rw [ColumnCell.sectionY_of, h]
    rw [isSensitiveAt_of_layers hlayers, ColumnCell.cell_of]
  rw [LegacyLayers.deferred, LegacyLayers.sensitive, List.filter_filter, deferredCells]
  congr 1
  funext cell
  rw [hcell, Bool.and_comm]

/-- A section defers its sensitive cells that touch no side, and still does once the rules have
run. -/
theorem deferred_of_get {log₁ : Array Event} {y : Fin 16} {s : Section}
    (hs : (c.settle log₁).1.sections.get y = some s) :
    s.deferred = deferredCells d.tags y := by
  obtain ⟨s₁, hs₁, hframe⟩ := exists_get_of_frame_eq (c.frame_settle log₁) hs
  have hdeferred : s₁.deferred = s.deferred := congrArg SectionFrame.deferred hframe
  rw [← hdeferred, Section.deferred, d.decoded?_of_get hs₁, d.layers?_eq]
  cases hl : listedLayers? d.tags y with
  | none =>
    refine (List.filter_eq_nil_iff.2 fun cell _ h => ?_).symm
    have hlayers : listedLayers? d.tags (ColumnCell.of y cell).sectionY = none := by
      rw [ColumnCell.sectionY_of, hl]
    rw [isSensitiveAt_of_no_layers hlayers] at h
    cases h
  | some l => exact (DecodedCells.deferred_decode l).trans (d.deferred_eq hl)

end Decoding

/-! ## the lists of a chunk -/

theorem height_lt {y z : Fin 16} (h : y < z) : UInt8.ofNat y.val < UInt8.ofNat z.val := by
  rw [UInt8.lt_iff_toNat_lt, UInt8.toNat_ofNat_of_lt' (by show y.val < 256; omega),
    UInt8.toNat_ofNat_of_lt' (by show z.val < 256; omega)]
  exact h

/-- What is listed are the deferred cells of each section, under its number. -/
theorem indices_eq {c : Chunk} (hy : ∀ y s, c.sections.get y = some s → s.y = y) :
    c.upgradeData.indices = Entries.tabulate (fun y : Fin 16 => UInt8.ofNat y.val) fun y =>
      (c.sections.get y).map fun s => s.deferred.map fun i => UInt16.ofNat i.val := by
  have hlists : (c.kept.map fun s =>
        (UInt8.ofNat s.y.val, s.deferred.map fun i => UInt16.ofNat i.val)) =
      Entries.tabulate (fun y : Fin 16 => UInt8.ofNat y.val) fun y =>
        (c.sections.get y).map fun s => s.deferred.map fun i => UInt16.ofNat i.val := by
    rw [kept_eq, List.map_filterMap, Entries.tabulate]
    congr 1
    funext y
    cases hs : c.sections.get y with
    | none => rfl
    | some s =>
      rw [Option.map_some, Option.map_some, Option.map_some, hy y s hs]
  show Entries.ofList (c.kept.map fun s =>
    (UInt8.ofNat s.y.val, s.deferred.map fun i => UInt16.ofNat i.val)) = _
  rw [hlists]
  exact Entries.ofList_of_ascending (Entries.ascending_tabulate (fun _ _ => height_lt) _)

theorem get?_indices {c : Chunk} (hy : ∀ y s, c.sections.get y = some s → s.y = y) (y : Fin 16) :
    Entries.get? (UInt8.ofNat y.val) c.upgradeData.indices =
      (c.sections.get y).map fun s => s.deferred.map fun i => UInt16.ofNat i.val := by
  rw [indices_eq hy]
  exact Entries.get?_tabulate (fun _ _ => height_inj.1) _ y

/-! ## the level -/

namespace Decoding

variable {level : Tag} {log log' : Array Event} {c : Chunk} (d : Decoding level log log' c)

/-- Each height that is listed has the sensitive cells of its section that touch no side. -/
theorem get?_indices_settle (log₁ : Array Event) (y : Fin 16) {cells : List UInt16} :
    Entries.get? (UInt8.ofNat y.val) (c.settle log₁).1.upgradeData.indices = some cells ↔
      (∃ t ∈ d.tags, Section.y? t = .ok y) ∧
        cells = (deferredCells d.tags y).map fun i => UInt16.ofNat i.val := by
  rw [get?_indices (d.writable_settle log₁).y_eq, ← d.isSome_get_settle log₁]
  cases hs : (c.settle log₁).1.sections.get y with
  | none => simp
  | some s =>
    rw [Option.map_some, d.deferred_of_get hs, Option.some.injEq, eq_comm]
    exact (and_iff_right rfl).symm

include d in
/-- No key is there but the numbers of sections. -/
theorem exists_height (log₁ : Array Event) {k : UInt8} {cells : List UInt16}
    (h : Entries.get? k (c.settle log₁).1.upgradeData.indices = some cells) :
    ∃ y : Fin 16, k = UInt8.ofNat y.val := by
  rw [indices_eq (d.writable_settle log₁).y_eq] at h
  obtain ⟨y, hy⟩ := Entries.exists_key_of_get?_tabulate h
  exact ⟨y, hy.symm⟩

/-- A sensitive cell with a side is one whose side is noted. -/
theorem side_noted_iff (log₁ : Array Event) {i : ColumnCell}
    (hi : isSensitiveAt d.tags i = true) :
    (∃ s ∈ Sides.single, Sides.ofEdge i.cell.x i.cell.z = s ∧
        (c.settle log₁).1.sides.contains s = true) ↔
      ¬ (Sides.ofEdge i.cell.x i.cell.z).isEmpty = true := by
  rw [← Sides.ofEdge_mem_single_iff]
  constructor
  · rintro ⟨s, hs, rfl, -⟩
    exact hs
  · intro hs
    exact ⟨_, hs, rfl, (d.contains_sides_settle log₁ hs).2 ⟨i, hi, rfl⟩⟩

theorem exists_listed {i : ColumnCell} (hi : isSensitiveAt d.tags i = true) :
    ∃ t ∈ d.tags, Section.y? t = .ok i.sectionY := by
  rw [← lastListed?_isSome_iff]
  cases ht : lastListed? d.tags i.sectionY with
  | some t => rfl
  | none =>
    have hl : listedLayers? d.tags i.sectionY = none := by
      rw [listedLayers?, ht]
      rfl
    rw [isSensitiveAt_of_no_layers hl] at hi
    cases hi

/-- A sensitive cell without a side is one that is listed. -/
theorem listed_iff (log₁ : Array Event) {i : ColumnCell} (hi : isSensitiveAt d.tags i = true) :
    (∃ cells, Entries.get? (UInt8.ofNat i.sectionY.val)
        (c.settle log₁).1.upgradeData.indices = some cells ∧
          UInt16.ofNat i.cell.val ∈ cells) ↔
      (Sides.ofEdge i.cell.x i.cell.z).isEmpty = true := by
  rw [Sides.isEmpty_ofEdge_iff]
  constructor
  · rintro ⟨cells, h, hmem⟩
    rw [((d.get?_indices_settle log₁ i.sectionY).1 h).2] at hmem
    obtain ⟨cell, hcell, -, hinterior⟩ := (mem_numbers d.tags i.sectionY _).1 hmem
    rw [cell_inj hcell]
    exact hinterior
  · intro hinterior
    refine ⟨_, (d.get?_indices_settle log₁ i.sectionY).2 ⟨d.exists_listed hi, rfl⟩, ?_⟩
    refine (mem_numbers d.tags i.sectionY _).2 ⟨i.cell, rfl, ?_, hinterior⟩
    rw [ColumnCell.of_sectionY_cell]
    exact hi

end Decoding

/-- The sides are those that sensitive cells touch, and the lists hold the other sensitive
cells. -/
structure ListsBoundary (tags : List Tag) (c : Chunk) : Prop where
  sides_iff : ∀ s ∈ Sides.single, c.sides.contains s = true ↔
    ∃ i, SensitiveAt tags i ∧ Sides.ofEdge i.cell.x i.cell.z = s
  keys_iff : ∀ k, (Entries.get? k c.upgradeData.indices).isSome ↔
    ∃ y : Fin 16, k = UInt8.ofNat y.val ∧ ∃ t ∈ tags, Section.y? t = .ok y
  ascending : ∀ k cells, Entries.get? k c.upgradeData.indices = some cells →
    cells.Pairwise fun a b => a < b
  mem_iff : ∀ (y : Fin 16) cells,
    Entries.get? (UInt8.ofNat y.val) c.upgradeData.indices = some cells →
      ∀ n, n ∈ cells ↔ ∃ cell : Cell, n = UInt16.ofNat cell.val ∧ SensitiveAt tags (.of y cell) ∧
        (1 ≤ cell.x ∧ cell.x ≤ 14) ∧ 1 ≤ cell.z ∧ cell.z ≤ 14
  /-- A sensitive cell touches a side that is noted, or it is listed, and never both. -/
  exactly_one : ∀ i, SensitiveAt tags i → Xor
    (∃ s ∈ Sides.single, Sides.ofEdge i.cell.x i.cell.z = s ∧ c.sides.contains s = true)
    (∃ cells, Entries.get? (UInt8.ofNat i.sectionY.val) c.upgradeData.indices = some cells ∧
      UInt16.ofNat i.cell.val ∈ cells)

theorem Decoding.listsBoundary {level : Tag} {log log' : Array Event} {c : Chunk}
    (d : Decoding level log log' c) (log₁ : Array Event) :
    ListsBoundary d.tags (c.settle log₁).1 := by
  have hsensitive : ∀ i, isSensitiveAt d.tags i = true ↔ SensitiveAt d.tags i := fun _ =>
    isSensitiveAt_iff (ofTag?_of_place d.placed_eq)
  refine ⟨fun s hs => ?_, fun k => ?_, fun k cells h => ?_, fun y cells h n => ?_, fun i hi => ?_⟩
  · simp only [← hsensitive]
    exact d.contains_sides_settle log₁ hs
  · rw [Option.isSome_iff_exists]
    constructor
    · rintro ⟨cells, h⟩
      obtain ⟨y, rfl⟩ := d.exists_height log₁ h
      exact ⟨y, rfl, ((d.get?_indices_settle log₁ y).1 h).1⟩
    · rintro ⟨y, rfl, hy⟩
      exact ⟨_, (d.get?_indices_settle log₁ y).2 ⟨hy, rfl⟩⟩
  · obtain ⟨y, rfl⟩ := d.exists_height log₁ h
    rw [((d.get?_indices_settle log₁ y).1 h).2, List.pairwise_map]
    exact (pairwise_deferredCells d.tags y).imp cell_lt
  · simp only [← hsensitive]
    rw [((d.get?_indices_settle log₁ y).1 h).2]
    exact mem_numbers d.tags y n
  · rw [← hsensitive] at hi
    rw [d.side_noted_iff log₁ hi, d.listed_iff log₁ hi]
    exact xor_not_left.2 Iff.rfl

/-- **The upgrade data of a level list exactly the work at the border**, and the tag that is
written for them gives them back. -/
theorem upgradeData_lists_boundary {level : Tag} {log log' : Array Event} {c : Chunk}
    (h : ofLevel level log = .ok c log') :
    ∃ tags out t, list? level "Sections" = .ok tags ∧ ListsBoundary tags c ∧
      c.write = .ok out ∧ out.get? "UpgradeData" = some t ∧
      UpgradeData.ofTag? t = some c.upgradeData ∧ c.upgradeData.sides = c.sides := by
  obtain ⟨c₀, mid, hc₀, rfl, -⟩ := ofLevel_eq_ok_iff.1 h
  obtain ⟨d⟩ := decode_eq_ok_iff.1 hc₀
  obtain ⟨written, hwrite, -⟩ := (d.writable_settle mid).exists_write
  exact ⟨d.tags, _, _, d.tags_eq, d.listsBoundary mid, hwrite,
    Entries.get?_insert_self "UpgradeData" _ _, UpgradeData.ofTag?_toTag _, rfl⟩

/-! ## fences -/

/-- a section of one byte for all cells, which is that of fences; its even cells have block ids
beyond 255 -/
def oddFences (y : Fin 16) : Tag :=
  sectionWithAll y (Vector.ofFn fun _ => 85) (Vector.ofFn fun _ => 0) (Vector.ofFn fun _ => 1)

def bareSection : Tag := .compound [("Y", .byte 5)]

theorem cellNumber_oddFences (y : Fin 16) (c : Cell) :
    cellNumber (oddFences y) c = if c.val % 2 = 0 then 16 * 341 else 16 * 85 := by
  rw [oddFences, cellNumber_sectionWithAll, Table.get_ofFn, halfByte, halfByte]
  split
  · rfl
  · rfl

theorem y?_oddFences (y : Fin 16) : Section.y? (oddFences y) = .ok y := y?_of_get? rfl

theorem y?_bareSection : Section.y? bareSection = .ok 5 := rfl

/-- Only the odd cells are fences. -/
theorem sensitiveAt_fences {i : ColumnCell} :
    SensitiveAt [oddFences 3, bareSection] i ↔ i.sectionY = 3 ∧ i.cell.val % 2 = 1 := by
  constructor
  · rintro ⟨t, ht, hblocks, hmem⟩
    have hlisted := mem_of_lastListed ht
    obtain ⟨-, -, -, hy, -⟩ := ht
    simp only [List.mem_cons, List.not_mem_nil, or_false] at hlisted
    obtain rfl | rfl := hlisted
    · rw [y?_oddFences, Except.ok.injEq] at hy
      refine ⟨hy.symm, ?_⟩
      rw [cellNumber_oddFences] at hmem
      by_contra hodd
      rw [if_pos (by omega)] at hmem
      exact absurd hmem (by decide)
    · cases hblocks
  · rintro ⟨hy, hodd⟩
    refine ⟨oddFences 3, ⟨[], [bareSection], rfl, ?_, ?_⟩, rfl, ?_⟩
    · rw [hy, y?_oddFences]
    · intro u hu hyu
      rw [List.mem_singleton.1 hu, y?_bareSection, hy] at hyu
      cases hyu
    · rw [cellNumber_oddFences, if_neg (by omega)]
      decide

/-- Along `x` a fence is never on the west edge, since the cells there are even. -/
theorem exists_fence_iff {s : Sides} (hs : s ∈ Sides.single) :
    (∃ i, SensitiveAt [oddFences 3, bareSection] i ∧ Sides.ofEdge i.cell.x i.cell.z = s) ↔
      s ∈ [Sides.north, .northEast, .east, .southEast, .south] := by
  constructor
  · rintro ⟨i, hi, rfl⟩
    have hall : ∀ x < 16, ∀ z < 16, x % 2 = 0 ∨ (Sides.ofEdge x z).isEmpty = true ∨
        Sides.ofEdge x z ∈ [Sides.north, .northEast, .east, .southEast, .south] := by decide
    have hodd := (sensitiveAt_fences.1 hi).2
    have hx : i.cell.x % 2 ≠ 0 := by
      show i.cell.val % 16 % 2 ≠ 0
      omega
    have hedge := hall i.cell.x (Nat.mod_lt _ (by decide)) i.cell.z (Nat.mod_lt _ (by decide))
    exact (hedge.resolve_left hx).resolve_left ((Sides.ofEdge_mem_single_iff _ _).1 hs)
  · intro hside
    have hall : ∀ s ∈ [Sides.north, .northEast, .east, .southEast, .south],
        ∃ x < 16, ∃ z < 16, x % 2 = 1 ∧ Sides.ofEdge x z = s := by decide
    obtain ⟨x, hx, z, hz, hodd, rfl⟩ := hall s hside
    refine ⟨.of 3 (.of x 0 z), sensitiveAt_fences.2 ⟨ColumnCell.sectionY_of 3 _, ?_⟩, ?_⟩
    · rw [ColumnCell.cell_of]
      show (0 % 16 * 256 + z % 16 * 16 + x % 16) % 2 = 1
      omega
    · rw [ColumnCell.cell_of, Cell.x_of, Cell.z_of, Nat.mod_eq_of_lt hx, Nat.mod_eq_of_lt hz]

/-- the odd cells that lie on no edge -/
def innerFences : List Cell := Cell.all.filter fun i =>
  i.val % 2 = 1 ∧ (1 ≤ i.x ∧ i.x ≤ 14) ∧ 1 ≤ i.z ∧ i.z ≤ 14

theorem mem_innerFences {i : Cell} :
    i ∈ innerFences ↔ i.val % 2 = 1 ∧ (1 ≤ i.x ∧ i.x ≤ 14) ∧ 1 ≤ i.z ∧ i.z ≤ 14 := by
  rw [innerFences, List.mem_filter, decide_eq_true_eq]
  exact and_iff_right (Cell.mem_all i)

/-- The fences inside are listed, those at the border touch five sides, and a section without
block data has an empty list. -/
theorem upgradeData_lists_boundary_odd_fences :
    ∃ c log', ofLevel (levelOf [oddFences 3, bareSection]) #[] = .ok c log' ∧
      (∀ s ∈ Sides.single, c.sides.contains s = true ↔
        s ∈ [Sides.north, .northEast, .east, .southEast, .south]) ∧
      (∀ k, (Entries.get? k c.upgradeData.indices).isSome ↔ k = 3 ∨ k = 5) ∧
      Entries.get? 3 c.upgradeData.indices = some (innerFences.map fun i => UInt16.ofNat i.val) ∧
      Entries.get? 5 c.upgradeData.indices = some [] ∧
      ∃ out t, c.write = .ok out ∧ out.get? "UpgradeData" = some t ∧
        UpgradeData.ofTag? t = some c.upgradeData ∧ c.upgradeData.sides = c.sides := by
  have hread : ∀ t ∈ [oddFences 3, bareSection], ∃ s, Section.ofTag? t = .ok s :=
    ofTag?_of_mem_pair (exists_ofTag?_sectionWithAll 3 _ _ _) ⟨_, rfl⟩
  obtain ⟨c, log', h⟩ := exists_ofLevel_levelOf hread #[]
  obtain ⟨tags, out, t, htags, hlists, hwrite, ht, hback, hsides⟩ := upgradeData_lists_boundary h
  obtain rfl : [oddFences 3, bareSection] = tags := Except.ok.inj htags
  have hkeys : ∀ k, (Entries.get? k c.upgradeData.indices).isSome ↔ k = 3 ∨ k = 5 := by
    intro k
    rw [hlists.keys_iff]
    simp only [List.exists_mem_cons_iff, y?_oddFences, y?_bareSection, Except.ok.injEq]
    constructor
    · rintro ⟨y, rfl, rfl | rfl | ⟨t, ht, -⟩⟩
      · exact .inl rfl
      · exact .inr rfl
      · cases ht
    · rintro (rfl | rfl)
      · exact ⟨3, rfl, .inl rfl⟩
      · exact ⟨5, rfl, .inr (.inl rfl)⟩
  obtain ⟨fences, hfences⟩ := Option.isSome_iff_exists.1 ((hkeys 3).2 (.inl rfl))
  obtain ⟨others, hothers⟩ := Option.isSome_iff_exists.1 ((hkeys 5).2 (.inr rfl))
  have hmem := hlists.mem_iff 3 fences hfences
  have hnone := hlists.mem_iff 5 others hothers
  simp only [sensitiveAt_fences, ColumnCell.sectionY_of, ColumnCell.cell_of] at hmem hnone
  refine ⟨c, log', h, fun s hs => (hlists.sides_iff s hs).trans (exists_fence_iff hs), hkeys, ?_,
    ?_, out, t, hwrite, ht, hback, hsides⟩
  · have hinner : (innerFences.map fun i => UInt16.ofNat i.val).Pairwise fun a b => a < b :=
      List.pairwise_map.2 (((List.pairwise_lt_finRange 4096).sublist List.filter_sublist).imp
        cell_lt)
    rw [hfences, Option.some.injEq]
    refine (hlists.ascending 3 fences hfences).eq_of_mem_iff hinner fun n => ?_
    rw [hmem, List.mem_map]
    constructor
    · rintro ⟨i, rfl, ⟨-, hodd⟩, hinside⟩
      exact ⟨i, mem_innerFences.2 ⟨hodd, hinside⟩, rfl⟩
    · rintro ⟨i, hi, rfl⟩
      obtain ⟨hodd, hinside⟩ := mem_innerFences.1 hi
      exact ⟨i, rfl, ⟨trivial, hodd⟩, hinside⟩
  · rw [hothers, Option.some.injEq]
    refine List.eq_nil_iff_forall_not_mem.2 fun n hn => ?_
    obtain ⟨i, -, ⟨hy, -⟩, -⟩ := (hnone n).1 hn
    cases hy

end Flattening.Chunk
