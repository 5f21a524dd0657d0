import Flattening.Proofs.Chunk.Layout
import Flattening.Proofs.Section.Decode

/-!
# What a level lists for each cell

Of the sections listed for a height the last one counts.  Its legacy arrays, if it has them, say
which block id and which state each of its cells has, whatever lies around it; so this can be
told from the list of sections alone.

* `lastListed?_eq_some_iff`   the section that counts is the last one listed;
* `listed_cellNumber`, `listedId?_eq_some_iff`   and the numbers in its arrays are listed;
* `listed_sectionOf`, `listed_sectionWith`   what sections of plain arrays list;
* `Decoding.layers?_eq`       what is decoded are its arrays;
* `Decoding.layers?_eq_none`  and without block data there are none;
* `Decoding.isSome_get_iff`    and a section is there for each height that is listed;
* `Decoding.id?_eq`, `Decoding.state_eq`   and so each cell has the listed block id and state.
-/

namespace Flattening.Chunk

/-- the section listed last for a height -/
def lastListed? (tags : List Tag) (y : Fin 16) : Option Tag :=
  (tags.filter fun t => Section.y? t = .ok y).getLast?

/-- the legacy layers of a tag that is read as a section with block data -/
def tagLayers? (t : Tag) : Option LegacyLayers :=
  match Section.ofTag? t with
  | .ok s => s.legacy?
  | .error _ => none

/-- the legacy layers listed for a height, none without block data -/
def listedLayers? (tags : List Tag) (y : Fin 16) : Option LegacyLayers :=
  (lastListed? tags y).bind tagLayers?

/-- the block id listed for a cell, none outside sections with block data -/
def listedId? (tags : List Tag) (i : ColumnCell) : Option Nat :=
  (listedLayers? tags i.sectionY).map fun l => l.block i.cell

/-- the state that the number listed for a cell has by itself -/
def listedState? (tags : List Tag) (i : ColumnCell) : Option BlockState :=
  (listedLayers? tags i.sectionY).map fun l => l.state i.cell

theorem lastListed?_eq_some_iff {tags : List Tag} {y : Fin 16} {t : Tag} :
    lastListed? tags y = some t ↔ LastListed tags y t := by
  constructor
  · intro h
    obtain ⟨init, hinit⟩ := List.getLast?_eq_some_iff.1 h
    obtain ⟨before, rest, rfl, -, hrest⟩ := List.filter_eq_append_iff.1 hinit
    obtain ⟨skipped, after, rfl, hskipped, ht, hafter⟩ := List.filter_eq_cons_iff.1 hrest
    refine ⟨before ++ skipped, after, by rw [List.append_assoc], of_decide_eq_true ht, ?_⟩
    intro u hu hy
    exact List.filter_eq_nil_iff.1 hafter u hu (decide_eq_true hy)
  · rintro ⟨before, after, rfl, hy, hafter⟩
    have hnil : (after.filter fun u => decide (Section.y? u = .ok y)) = [] :=
      List.filter_eq_nil_iff.2 fun u hu h => hafter u hu (of_decide_eq_true h)
    have hkept : ((t :: after).filter fun u => decide (Section.y? u = .ok y)) = [t] := by
      rw [List.filter_cons, if_pos (decide_eq_true hy), hnil]
    rw [lastListed?, List.filter_append, hkept, List.getLast?_concat]

/-- A height counts as soon as one section is listed for it. -/
theorem lastListed?_isSome_iff {tags : List Tag} {y : Fin 16} :
    (lastListed? tags y).isSome ↔ ∃ t ∈ tags, Section.y? t = .ok y := by
  rw [lastListed?, isSome_getLast?_filter]
  simp only [decide_eq_true_eq]

theorem listedLayers?_of_lastListed {tags : List Tag} {y : Fin 16} {t : Tag}
    (h : LastListed tags y t) : listedLayers? tags y = tagLayers? t := by
  rw [listedLayers?, lastListed?_eq_some_iff.2 h, Option.bind_some]

/-- The number in the listed arrays is the block id and the state of a cell. -/
theorem listed_of_legacyId {tags : List Tag} {y : Fin 16} {cell : Cell} {l : LegacyLayers}
    (id : LegacyId) (h : listedLayers? tags y = some l) (hid : l.legacyId cell = id) :
    listedId? tags (.of y cell) = some id.block ∧
      listedState? tags (.of y cell) = some (Legacy.state id) := by
  rw [listedId?, listedState?, ColumnCell.sectionY_of, ColumnCell.cell_of, h, ← hid]
  exact ⟨rfl, rfl⟩

/-- A section that is read has layers exactly when it has `Blocks`. -/
theorem isSome_tagLayers? {t : Tag} {s : Section} (h : Section.ofTag? t = .ok s) :
    (tagLayers? t).isSome = (t.get? "Blocks").isSome := by
  rw [tagLayers?, h]
  obtain ⟨m, y, rfl, -, ⟨hl, rfl⟩ | ⟨l, hl, rfl⟩⟩ := Section.ofTag?_eq_ok_iff.1 h
  · exact Section.isSome_layers? hl
  · exact Section.isSome_layers? hl

/-- **The number in the arrays of the last section listed is the block id and the state of a
cell.** -/
theorem listed_cellNumber {tags : List Tag} {y : Fin 16} {t : Tag} {s : Section}
    (ht : LastListed tags y t) (hs : Section.ofTag? t = .ok s) (hblocks : (t.get? "Blocks").isSome)
    (cell : Cell) :
    listedId? tags (.of y cell) = some (cellNumber t cell / 16) ∧
      listedState? tags (.of y cell) = some (Legacy.state (.ofNumber (cellNumber t cell))) := by
  obtain ⟨m, y', rfl, -, ⟨hnone, -⟩ | ⟨l, hl, rfl⟩⟩ := Section.ofTag?_eq_ok_iff.1 hs
  · have hsome := (Section.isSome_layers? hnone).trans hblocks
    cases hsome
  · have hlayers : listedLayers? tags y = some l := by
      rw [listedLayers?_of_lastListed ht, tagLayers?, hs]
      rfl
    exact listed_of_legacyId _ hlayers (Section.legacyId_eq hl cell)

/-- Nothing is listed for a cell without a section. -/
theorem listedId?_of_no_section {tags : List Tag} {y : Fin 16}
    (h : ∀ t ∈ tags, Section.y? t ≠ .ok y) (cell : Cell) : listedId? tags (.of y cell) = none := by
  have hlast : lastListed? tags y = none := by
    rw [← Option.not_isSome_iff_eq_none, lastListed?_isSome_iff]
    rintro ⟨t, ht, hy⟩
    exact h t ht hy
  rw [listedId?, ColumnCell.sectionY_of, listedLayers?, hlast]
  rfl

/-- Nor is it in a section without block data. -/
theorem listedId?_eq_none {tags : List Tag} {y : Fin 16} {t : Tag} {s : Section}
    (ht : LastListed tags y t) (hs : Section.ofTag? t = .ok s) (hblocks : t.get? "Blocks" = none)
    (cell : Cell) : listedId? tags (.of y cell) = none := by
  have hsome := isSome_tagLayers? hs
  rw [hblocks, Option.isSome_none, Option.isSome_eq_false_iff, Option.isNone_iff_eq_none] at hsome
  rw [listedId?, ColumnCell.sectionY_of, listedLayers?_of_lastListed ht, hsome]
  rfl

/-- **A block id is listed for a cell when the arrays of the last section listed have it there.** -/
theorem listedId?_eq_some_iff {tags : List Tag} (hread : ∀ t ∈ tags, ∃ s, Section.ofTag? t = .ok s)
    {y : Fin 16} {cell : Cell} {b : Nat} :
    listedId? tags (.of y cell) = some b ↔
      ∃ t, LastListed tags y t ∧ (t.get? "Blocks").isSome ∧ cellNumber t cell / 16 = b := by
  constructor
  · intro h
    cases hlast : lastListed? tags y with
    | none =>
      rw [listedId?, ColumnCell.sectionY_of, listedLayers?, hlast] at h
      cases h
    | some t =>
      have ht := lastListed?_eq_some_iff.1 hlast
      obtain ⟨s, hs⟩ := hread t (mem_of_lastListed ht)
      cases hblocks : t.get? "Blocks" with
      | none =>
        rw [listedId?_eq_none ht hs hblocks] at h
        cases h
      | some a =>
        have hsome : (t.get? "Blocks").isSome := by
          rw [hblocks]
          rfl
        rw [(listed_cellNumber ht hs hsome cell).1, Option.some.injEq] at h
        exact ⟨t, ht, hsome, h⟩
  · rintro ⟨t, ht, hblocks, rfl⟩
    obtain ⟨s, hs⟩ := hread t (mem_of_lastListed ht)
    exact (listed_cellNumber ht hs hblocks cell).1

/-- Without data each cell lists the first state of its byte. -/
theorem listed_sectionOf {tags : List Tag} {y : Fin 16} {ids : Vector Int8 4096}
    (h : LastListed tags y (sectionOf y ids)) {cell : Cell} {b : Nat}
    (hb : (ids.get cell).toUInt8.toNat = b) :
    listedId? tags (.of y cell) = some b ∧
      listedState? tags (.of y cell) = some (Legacy.state ⟨b, 0⟩) := by
  have hlayers : listedLayers? tags y = some ⟨ids.map Int8.toUInt8, .absent, .absent⟩ := by
    rw [listedLayers?_of_lastListed h, tagLayers?, ofTag?_sectionOf]
    rfl
  refine listed_of_legacyId ⟨b, 0⟩ hlayers ?_
  rw [LegacyLayers.legacyId, Table.get_map, hb, Nibbles.get_absent, LegacyId.decode,
    Nat.zero_mod, Nat.zero_mul, Nat.zero_add]

/-- With data it is the state of the cell's half of a data byte. -/
theorem listed_sectionWith {tags : List Tag} {y : Fin 16} {ids : Vector Int8 4096}
    {data : Vector Int8 2048} (h : LastListed tags y (sectionWith y ids data)) {cell : Cell}
    {b n : Nat} (hb : (ids.get cell).toUInt8.toNat = b)
    (hn : Nibbles.half (data.get ⟨cell.val / 2, by omega⟩).toUInt8 (cell.val % 2 == 1) = n) :
    listedId? tags (.of y cell) = some b ∧
      listedState? tags (.of y cell) = some (Legacy.state ⟨b, n⟩) := by
  have hlayers : listedLayers? tags y =
      some ⟨ids.map Int8.toUInt8, ⟨some (data.map Int8.toUInt8)⟩, .absent⟩ := by
    rw [listedLayers?_of_lastListed h, tagLayers?, ofTag?_sectionWith]
    rfl
  have hdata : Nibbles.get ⟨some (data.map Int8.toUInt8)⟩ cell = n := by
    show Nibbles.half ((data.map Int8.toUInt8).get _) _ = n
    rw [Table.get_map, hn]
  have hlt : n < 16 := hn ▸ Nibbles.half_lt _ _
  refine listed_of_legacyId ⟨b, n⟩ hlayers ?_
  rw [LegacyLayers.legacyId, Table.get_map, hb, hdata, Nibbles.get_absent, LegacyId.decode,
    Nat.zero_mod, Nat.zero_mul, Nat.zero_add, Nat.mod_eq_of_lt hlt]

namespace Decoding

variable {level : Tag} {log log' : Array Event} {c : Chunk} (d : Decoding level log log' c)

/-- The section kept for a height is read from the tag listed last. -/
theorem get_placed_eq (y : Fin 16) :
    d.placed.get y = (lastListed? d.tags y).bind fun t => (Section.ofTag? t).toOption := by
  cases hs : d.placed.get y with
  | some s =>
    obtain ⟨t, ht, hts⟩ := (get_placed d.placed_eq).1 hs
    rw [lastListed?_eq_some_iff.2 ht, Option.bind_some, hts]
    rfl
  | none =>
    cases ht : lastListed? d.tags y with
    | none => rfl
    | some t =>
      have hlast := lastListed?_eq_some_iff.1 ht
      have hmem : t ∈ d.tags := List.mem_of_mem_filter (List.mem_of_getLast? ht)
      obtain ⟨s, hts⟩ := ofTag?_of_place d.placed_eq t hmem
      rw [(get_placed d.placed_eq).2 ⟨t, hlast, hts⟩] at hs
      cases hs

theorem layers?_eq (y : Fin 16) : d.layers? y = listedLayers? d.tags y := by
  rw [layers?, d.get_placed_eq, listedLayers?, Option.bind_assoc]
  congr 1
  funext t
  rw [tagLayers?]
  cases Section.ofTag? t with
  | ok s => rfl
  | error e => rfl

theorem layers?_of_lastListed {y : Fin 16} {t : Tag} (ht : LastListed d.tags y t) :
    d.layers? y = tagLayers? t := by
  rw [d.layers?_eq, listedLayers?_of_lastListed ht]

theorem isSome_layers?_of_lastListed {y : Fin 16} {t : Tag} (ht : LastListed d.tags y t) :
    (d.layers? y).isSome = (t.get? "Blocks").isSome := by
  obtain ⟨s, hs⟩ := ofTag?_of_place d.placed_eq t (mem_of_lastListed ht)
  rw [d.layers?_of_lastListed ht, isSome_tagLayers? hs]

/-- Without block data there are no layers, and without a section neither. -/
theorem layers?_eq_none {y : Fin 16} (h : ∀ t, LastListed d.tags y t → t.get? "Blocks" = none) :
    d.layers? y = none := by
  cases ht : lastListed? d.tags y with
  | none => rw [d.layers?_eq, listedLayers?, ht, Option.bind_none]
  | some t =>
    have hlast := lastListed?_eq_some_iff.1 ht
    have hsome := d.isSome_layers?_of_lastListed hlast
    rw [h t hlast, Option.isSome_none, Option.isSome_eq_false_iff] at hsome
    exact Option.isNone_iff_eq_none.1 hsome

/-- A section is there for each height that is listed. -/
theorem isSome_get_iff (y : Fin 16) :
    (c.sections.get y).isSome ↔ ∃ t ∈ d.tags, Section.y? t = .ok y := by
  rw [← lastListed?_isSome_iff, d.get_sections, Option.isSome_map, d.get_placed_eq]
  cases ht : lastListed? d.tags y with
  | none => exact Iff.rfl
  | some t =>
    have hmem : t ∈ d.tags := List.mem_of_mem_filter (List.mem_of_getLast? ht)
    obtain ⟨s, hs⟩ := ofTag?_of_place d.placed_eq t hmem
    rw [Option.bind_some, hs]
    exact Iff.rfl

theorem isSome_get_settle (log₁ : Array Event) (y : Fin 16) :
    ((c.settle log₁).1.sections.get y).isSome ↔ ∃ t ∈ d.tags, Section.y? t = .ok y := by
  have hsome := congrArg Option.isSome (map_frame_of_frame_eq (c.frame_settle log₁) y)
  rw [Option.isSome_map, Option.isSome_map] at hsome
  rw [hsome, d.isSome_get_iff]

theorem id?_eq (i : ColumnCell) : d.id? i = listedId? d.tags i := by
  rw [id?, d.layers?_eq, listedId?]

theorem state_eq (i : ColumnCell) : d.state i = (listedState? d.tags i).getD .air := by
  rw [state, d.layers?_eq, listedState?]
  cases listedLayers? d.tags i.sectionY with
  | none => rfl
  | some l => rfl

theorem state_of_listed {i : ColumnCell} {s : BlockState} (h : listedState? d.tags i = some s) :
    d.state i = s := by
  rw [d.state_eq, h, Option.getD_some]

end Decoding

end Flattening.Chunk
