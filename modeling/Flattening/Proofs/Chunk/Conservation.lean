import Flattening.Proofs.Chunk.Listed
import Flattening.Proofs.Chunk.Order
import Flattening.Proofs.Rule.Records

/-!
# Block entities are conserved

Which block entities a level keeps follows from its two lists alone.  Each cell keeps the last
record listed for it, unless the block id listed for the cell has a rule that follows a block
entity: such a rule takes the record, and it is counted.  A record that belongs to no cell
stays.  A record that another one displaced is reported.

* `Decoding.get?_settle`       what each cell holds after the rules have run;
* `Decoding.records_settle`    so what is left, in the order of the list;
* `Decoding.consumed_settle`   and how many were taken;
* `Decoding.events_settle`     how many were displaced;
* `block_entities_conserved`   no record of a level is lost, added or taken twice.
-/

namespace Flattening.Chunk

open BlockEntities (placedCells lastRecord? strayRecords)

/-- The block id listed for the cell has a rule that follows a block entity. -/
def takesRecord (tags : List Tag) (i : ColumnCell) : Bool :=
  (listedId? tags i).any fun b => Rule.recordBlocks.contains b

/-- the cells whose record is taken -/
def takenCells (x z : Int32) (records tags : List Tag) : List ColumnCell :=
  (placedCells x z records).filter (takesRecord tags)

/-- The records that are left: those of cells in the order of the list, then the strays. -/
def leftRecords (x z : Int32) (records tags : List Tag) : List Tag :=
  ((placedCells x z records).filter fun i => !takesRecord tags i).filterMap
    (lastRecord? x z records) ++ strayRecords records

theorem length_filterMap_lastRecord? {x z : Int32} {records : List Tag} {cells : List ColumnCell}
    (h : ∀ i ∈ cells, i ∈ placedCells x z records) :
    (cells.filterMap (lastRecord? x z records)).length = cells.length :=
  List.filterMap_length_eq_length.2 fun i hi => BlockEntities.lastRecord?_isSome_iff.2 (h i hi)

namespace Decoding

variable {level : Tag} {log log' : Array Event} {c : Chunk}

/-- The cells that wait for a block entity are those whose listed block id says so. -/
theorem waitsForRecord_iff (d : Decoding level log log' c) {i : ColumnCell} :
    WaitsForRecord c.groups i ↔ takesRecord d.tags i = true := by
  rw [takesRecord, ← d.id?_eq, Option.any_eq_true]
  constructor
  · rintro ⟨g, hg, hb, hi⟩
    exact ⟨g.block, (d.id?_of_group hg i hi).1, List.contains_iff_mem.2 hb⟩
  · rintro ⟨b, hid, hb⟩
    have hb' : b ∈ Rule.recordBlocks := List.contains_iff_mem.1 hb
    have hruled : Rule.recordBlocks ⊆ Rule.ruledBlocks := by decide
    obtain ⟨g, hg, rfl, hi⟩ := d.exists_group hid (hruled hb')
    exact ⟨g, hg, hb', hi⟩

theorem get?_settle (d : Decoding level log log' c) (i : ColumnCell) :
    (c.settle log').1.entities.get? i =
      if takesRecord d.tags i then none else lastRecord? c.x c.z d.records i := by
  have hview := view_run d (List.Perm.refl c.groups)
  have hi : (c.settle log').1.entities.get? i =
      (runGroups c.groups (CellStore.view c) log').1.record? i :=
    congrFun (congrArg View.record? hview) i
  have hheld : (CellStore.view c).record? i = lastRecord? c.x c.z d.records i :=
    (BlockEntities.holdsListed_ofRecords d.entities_eq).get?_eq i
  rw [hi, record?_runGroups, hheld]
  simp only [d.waitsForRecord_iff]

/-- **What is left are the last records of the cells that keep theirs**, then the strays. -/
theorem records_settle (d : Decoding level log log' c) :
    (c.settle log').1.entities.records = leftRecords c.x c.z d.records d.tags := by
  have hlisted := BlockEntities.holdsListed_ofRecords d.entities_eq
  have htaken := c.taken_settle log'
  have hget : (c.settle log').1.entities.get? = fun i =>
      if (!takesRecord d.tags i) = true then lastRecord? c.x c.z d.records i else none := by
    funext i
    rw [d.get?_settle]
    cases takesRecord d.tags i with
    | true => rfl
    | false => rfl
  rw [BlockEntities.records_eq, htaken.cells_eq, hlisted.cells_eq, htaken.strays_eq,
    hlisted.strays_eq, hget, leftRecords, List.filterMap_filter]

/-- Each record that is taken is counted once. -/
theorem consumed_settle (d : Decoding level log log' c) :
    (c.settle log').1.consumed = (takenCells c.x c.z d.records d.tags).length := by
  have hlisted := BlockEntities.holdsListed_ofRecords d.entities_eq
  have htotal := (c.taken_settle log').total_eq
  have hheld : c.entities.size =
      (placedCells c.x c.z d.records).length + (strayRecords d.records).length := by
    have hget : c.entities.get? = lastRecord? c.x c.z d.records := funext hlisted.get?_eq
    rw [← BlockEntities.length_records, BlockEntities.records_eq, hlisted.cells_eq,
      hlisted.strays_eq, hget, List.length_append, length_filterMap_lastRecord? fun _ hi => hi]
  have hleft : (c.settle log').1.entities.size =
      ((placedCells c.x c.z d.records).filter fun i => !takesRecord d.tags i).length +
        (strayRecords d.records).length := by
    rw [← BlockEntities.length_records, d.records_settle, leftRecords, List.length_append,
      length_filterMap_lastRecord? fun i hi => (List.mem_filter.1 hi).1]
  have hsplit := List.length_eq_length_filter_add (l := placedCells c.x c.z d.records)
    (takesRecord d.tags)
  have hzero := d.consumed_eq
  rw [takenCells]
  omega

/-- The records that were held at first and those reported as displaced make up the list. -/
theorem events_settle (d : Decoding level log log' c) :
    ∃ events, (c.settle log').2 = log ++ events ∧
      c.entities.size + events.countP Event.isDuplicateRecord = d.records.length := by
  obtain ⟨-, -, first, hfirst, htotal⟩ := BlockEntities.ofRecords_eq_ok d.entities_eq
  obtain ⟨second, hsecond, hplaced⟩ := place_events d.placed_eq
  have hnone : second.countP Event.isDuplicateRecord = 0 := by
    refine Array.countP_eq_zero.2 fun e he => ?_
    obtain ⟨y, rfl⟩ := hplaced e he
    exact Bool.false_ne_true
  obtain ⟨events, hlog, hcount⟩ := d.countP_settle Event.isDuplicateRecord (fun _ _ _ => rfl)
    hfirst hsecond
  exact ⟨events, hlog, by rw [hcount, hnone, Nat.add_zero, htotal]⟩

end Decoding

theorem get?_records_entriesWith {c : Chunk} (h : Entries.get? "TileEntities" c.fields = none)
    (tags : List Tag) :
    Entries.get? "TileEntities" (c.entriesWith tags) =
      if c.entities.records.isEmpty then none else some (.list c.entities.records) := by
  rw [entriesWith, Entries.get?_insert_ne (by decide)]
  split
  · rw [Entries.get?_insert_ne (by decide), h]
  · rw [Entries.get?_insert_self]

theorem Decoding.get?_records_settle {level : Tag} {log log' : Array Event} {c : Chunk}
    (d : Decoding level log log' c) (tags : List Tag) :
    Entries.get? "TileEntities" ((c.settle log').1.entriesWith tags) =
      if (leftRecords c.x c.z d.records d.tags).isEmpty then none
      else some (.list (leftRecords c.x c.z d.records d.tags)) := by
  rw [← d.records_settle]
  refine get?_records_entriesWith ?_ tags
  rw [fields_settle, d.fields_eq, Entries.get?_erase_self]

/-- What becomes of the listed records: `c₀` is the chunk before the rules have run, `c` after
that, `out` what is written of it, and `events` what was reported on the way. -/
structure Conserves (records tags : List Tag) (c₀ c : Chunk) (out : Tag) (events : Array Event) :
    Prop where
  held : ∀ i, c₀.entities.get? i = lastRecord? c.x c.z records i
  left : ∀ i, c.entities.get? i =
    if takesRecord tags i then none else lastRecord? c.x c.z records i
  written : out.get? "TileEntities" =
    if (leftRecords c.x c.z records tags).isEmpty then none
    else some (.list (leftRecords c.x c.z records tags))
  consumed : c.consumed = (takenCells c.x c.z records tags).length
  total : records.length = (leftRecords c.x c.z records tags).length + c.consumed +
    events.countP Event.isDuplicateRecord

/-- **No block entity of a level is lost, added or taken twice.**  What is written are the last
records of the cells, in the order of the list and without the cells whose rule takes them, and
then the strays; those that were taken are counted, and those that were displaced reported. -/
theorem block_entities_conserved {level : Tag} {log log' : Array Event} {c : Chunk}
    (h : ofLevel level log = .ok c log') :
    ∃ records tags c₀ mid out events,
      coordinate? level "xPos" = .ok c.x ∧ coordinate? level "zPos" = .ok c.z ∧
      list? level "TileEntities" = .ok records ∧ list? level "Sections" = .ok tags ∧
      decode level log = .ok c₀ mid ∧ c = (c₀.settle mid).1 ∧ c.write = .ok out ∧
      log' = log ++ events ∧ Conserves records tags c₀ c out events := by
  obtain ⟨c₀, mid, hc₀, rfl, rfl⟩ := ofLevel_eq_ok_iff.1 h
  obtain ⟨d⟩ := decode_eq_ok_iff.1 hc₀
  have hframe := c₀.frame_settle mid
  have hx : (c₀.settle mid).1.x = c₀.x := congrArg ChunkFrame.x hframe
  have hz : (c₀.settle mid).1.z = c₀.z := congrArg ChunkFrame.z hframe
  have hfields : (c₀.settle mid).1.fields = c₀.fields := congrArg ChunkFrame.fields hframe
  obtain ⟨written, hwrite, -⟩ := (d.writable_settle mid).exists_write
  obtain ⟨events, hlog, hevents⟩ := d.events_settle
  have htotal := (c₀.taken_settle mid).total_eq
  have hzero := d.consumed_eq
  have hsize := (c₀.settle mid).1.entities.length_records
  have hnone : Entries.get? "TileEntities" (c₀.settle mid).1.fields = none := by
    rw [hfields, d.fields_eq, Entries.get?_erase_self]
  refine ⟨d.records, d.tags, c₀, mid, _, events.push (c₀.settle mid).1.summary, ?_, ?_,
    d.records_eq, d.tags_eq, hc₀, rfl, hwrite, ?_, ?_⟩
  · rw [hx]
    exact d.x_eq
  · rw [hz]
    exact d.z_eq
  · rw [hlog, Array.push_append]
  · have hcount : (events.push (c₀.settle mid).1.summary).countP Event.isDuplicateRecord =
        events.countP Event.isDuplicateRecord := by
      rw [Array.countP_push, summary]
      rfl
    refine ⟨?_, ?_, ?_, ?_, ?_⟩
    · rw [hx, hz]
      exact (BlockEntities.holdsListed_ofRecords d.entities_eq).get?_eq
    · rw [hx, hz]
      exact d.get?_settle
    · rw [hx, hz, ← d.records_settle, Tag.get?_compound]
      exact get?_records_entriesWith hnone written
    · rw [hx, hz]
      exact d.consumed_settle
    · rw [hx, hz, ← d.records_settle, hcount]
      omega

/-- a level of nothing but sections and block entities -/
def levelWith (tags records : List Tag) : Tag :=
  .compound [("Sections", .list tags), ("TileEntities", .list records)]

/-- Such a level is read when each of its sections is and its block entities are compounds. -/
theorem exists_ofLevel_levelWith {tags records : List Tag}
    (htags : ∀ t ∈ tags, ∃ s, Section.ofTag? t = .ok s)
    (hrecords : ∀ t ∈ records, t.entries?.isSome) (log : Array Event) :
    ∃ c log', ofLevel (levelWith tags records) log = .ok c log' := by
  obtain ⟨b, between, hb⟩ := BlockEntities.exists_ofRecords 0 0 hrecords log
  exact exists_ofLevel_of_decode (exists_decode rfl rfl rfl rfl hb rfl htags)

/-- a record with nothing but its place -/
def recordAt (x y z : Int32) : Tag := .compound [("x", .int x), ("y", .int y), ("z", .int z)]

/-- a record of a note -/
def noteAt (n : Int8) (x y z : Int32) : Tag :=
  .compound [("note", .byte n), ("x", .int x), ("y", .int y), ("z", .int z)]

/-- block entities of two note blocks, two of them for the same one, of a cell without section, and
of no cell -/
def crowdedRecords : List Tag :=
  [noteAt 3 0 240 0, recordAt 0 0 0, .compound [], noteAt 7 0 240 0, recordAt 1 240 0]

def crowdedSections : List Tag := [sectionOf (Fin.last 15) halvedIds]

def crowdedLevel : Tag := levelWith crowdedSections crowdedRecords

theorem exists_ofLevel_crowded : ∃ c log', ofLevel crowdedLevel #[] = .ok c log' := by
  have hcompound : ∀ t ∈ crowdedRecords, t.entries?.isSome := by
    intro t ht
    simp only [crowdedRecords, List.mem_cons, List.not_mem_nil, or_false] at ht
    rcases ht with rfl | rfl | rfl | rfl | rfl <;> rfl
  exact exists_ofLevel_levelWith (ofTag?_of_mem_sectionOf (Fin.last 15) halvedIds) hcompound #[]

theorem placedCells_crowded :
    placedCells 0 0 crowdedRecords = [.of 15 0, .of 0 0, .of 15 1] := by decide

/-- The section lists a note block for each cell of its lower half. -/
theorem listed_note {cell : Cell} (h : cell.val < 2048) :
    listedId? crowdedSections (.of 15 cell) = some 25 ∧
      listedState? crowdedSections (.of 15 cell) = some (Legacy.state ⟨25, 0⟩) := by
  have hlast : LastListed crowdedSections 15 (sectionOf (Fin.last 15) halvedIds) :=
    ⟨[], [], rfl, y?_sectionOf _ halvedIds, fun u hu => absurd hu List.not_mem_nil⟩
  refine listed_sectionOf hlast ?_
  rw [halvedIds, Table.get_ofFn, if_pos h]
  rfl

theorem takesRecord_note {cell : Cell} (h : cell.val < 2048) :
    takesRecord crowdedSections (.of 15 cell) = true := by
  rw [takesRecord, (listed_note h).1]
  decide

theorem takesRecord_below (cell : Cell) : takesRecord crowdedSections (.of 0 cell) = false := by
  have hnone : listedId? crowdedSections (.of 0 cell) = none := by
    refine listedId?_of_no_section (fun t ht hy => ?_) cell
    rw [List.mem_singleton.1 ht, y?_sectionOf] at hy
    cases hy
  rw [takesRecord, hnone]
  rfl

/-- Both note blocks take theirs. -/
theorem takenCells_crowded :
    takenCells 0 0 crowdedRecords crowdedSections = [.of 15 0, .of 15 1] := by
  rw [takenCells, placedCells_crowded, List.filter_cons, List.filter_cons, List.filter_cons,
    takesRecord_note (by decide), takesRecord_note (by decide), takesRecord_below]
  rfl

theorem leftRecords_crowded :
    leftRecords 0 0 crowdedRecords crowdedSections = [recordAt 0 0 0, .compound []] := by
  rw [leftRecords, placedCells_crowded, List.filter_cons, List.filter_cons, List.filter_cons,
    takesRecord_note (by decide), takesRecord_note (by decide), takesRecord_below]
  rfl

/-- Of the two records for one note block the later one is held and then taken, and the other one
was reported; the records of no note block are left. -/
theorem block_entities_conserved_crowded :
    ∃ c₀ c mid log' out, decode crowdedLevel #[] = .ok c₀ mid ∧
      ofLevel crowdedLevel #[] = .ok c log' ∧ c = (c₀.settle mid).1 ∧ c.write = .ok out ∧
      c₀.entities.get? (.of 15 0) = some (noteAt 7 0 240 0) ∧
      c.entities.get? (.of 15 0) = none ∧
      c.entities.get? (.of 0 0) = some (recordAt 0 0 0) ∧
      out.get? "TileEntities" = some (.list [recordAt 0 0 0, .compound []]) ∧
      c.consumed = 2 ∧ log'.countP Event.isDuplicateRecord = 1 := by
  obtain ⟨c, log', h⟩ := exists_ofLevel_crowded
  obtain ⟨records, tags, c₀, mid, out, events, hx, hz, hrecords, htags, hc₀, hc, hwrite, hlog,
    hconserves⟩ := block_entities_conserved h
  obtain rfl : crowdedRecords = records := Except.ok.inj hrecords
  obtain rfl : crowdedSections = tags := Except.ok.inj htags
  have hcx : 0 = c.x := Except.ok.inj hx
  have hcz : 0 = c.z := Except.ok.inj hz
  obtain ⟨hheld, hleft, hwritten, hconsumed, htotal⟩ := hconserves
  rw [← hcx, ← hcz] at hheld hleft hwritten hconsumed htotal
  rw [leftRecords_crowded] at hwritten htotal
  rw [takenCells_crowded] at hconsumed
  refine ⟨c₀, c, mid, log', out, hc₀, h, hc, hwrite, hheld _, ?_, ?_, hwritten, hconsumed, ?_⟩
  · rw [hleft, if_pos (takesRecord_note (by decide))]
  · rw [hleft, takesRecord_below]
    rfl
  · rw [hlog, Array.empty_append]
    rw [hconsumed] at htotal
    have hlength : crowdedRecords.length = 5 := rfl
    simp only [List.length_cons, List.length_nil] at htotal
    omega

end Flattening.Chunk
