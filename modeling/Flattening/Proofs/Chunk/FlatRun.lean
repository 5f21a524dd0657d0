import Flattening.Proofs.Chunk.RecordStates

/-!
# A chunk as a flat store

What a level lists can be held by two plain tables, one of states and one of block entities.
There is no section in them and no palette, and every state written lands.  The rules do the same
over these tables as over the chunk, cell by cell and event by event: no state that they write is
lost to a section that is absent or has no block data.

* `Decoding.view_ofListed`      the tables of a level look like its chunk;
* `Decoding.listed_of_write`    what is written goes to sections with block data;
* `flat_run_agrees`             the run over the tables and the run over the chunk agree.
-/

namespace Flattening

namespace FlatStore

/-- the tables of what a level lists -/
def ofListed (x z : Int32) (fromAlpha : Bool) (records tags : List Tag) : FlatStore where
  blocks := Entries.tabulate id (Chunk.listedState? tags)
  records := Entries.tabulate id (BlockEntities.lastRecord? x z records)
  fromAlpha := fromAlpha

theorem block_ofListed (x z : Int32) (fromAlpha : Bool) (records tags : List Tag)
    (i : ColumnCell) :
    CellStore.block (ofListed x z fromAlpha records tags) i =
      (Chunk.listedState? tags i).getD .air := by
  rw [block_eq, ofListed, Entries.get?_tabulate_id]

theorem record?_ofListed (x z : Int32) (fromAlpha : Bool) (records tags : List Tag)
    (i : ColumnCell) :
    CellStore.record? (ofListed x z fromAlpha records tags) i =
      BlockEntities.lastRecord? x z records i := by
  rw [record?_eq, ofListed, Entries.get?_tabulate_id]

end FlatStore

namespace Chunk

namespace Decoding

variable {level : Tag} {log log' : Array Event} {c : Chunk}

/-- The tables of a level look like its chunk before the rules have run. -/
theorem view_ofListed (d : Decoding level log log' c) :
    CellStore.view (FlatStore.ofListed c.x c.z c.fromAlpha d.records d.tags) =
      CellStore.view c := by
  have hblocks : CellStore.block (FlatStore.ofListed c.x c.z c.fromAlpha d.records d.tags) =
      CellStore.block c := by
    funext i
    rw [FlatStore.block_ofListed, ← d.state_eq]
    exact (d.block_eq i).symm
  have hrecords : CellStore.record? (FlatStore.ofListed c.x c.z c.fromAlpha d.records d.tags) =
      CellStore.record? c := by
    funext i
    rw [FlatStore.record?_ofListed]
    exact ((BlockEntities.holdsListed_ofRecords d.entities_eq).get?_eq i).symm
  rw [CellStore.view, hblocks, hrecords]
  rfl

/-- The rules do to the tables and to the chunk what they do to the view of both. -/
theorem view_flatRun (d : Decoding level log log' c) :
    Prod.map CellStore.view id (runGroups c.groups
        (FlatStore.ofListed c.x c.z c.fromAlpha d.records d.tags) log') =
      Prod.map CellStore.view id (c.settle log') := by
  have hlands : ∀ g ∈ c.groups, ∀ i ∈ g.columnCells, True := fun _ _ _ _ => trivial
  have hflat := FlatStore.showsWrites.view_runGroups
    (s := FlatStore.ofListed c.x c.z c.fromAlpha d.records d.tags) hlands log'
  have hchunk := showsWrites.view_runGroups (fun _ hg => d.lands_of_group hg) log'
  rw [Decoding.view_clearPending] at hchunk
  rw [hflat, d.view_ofListed, ← hchunk]
  rfl

/-- Keeping a list of the states written changes nothing, and each of them goes to a section with
block data. -/
theorem listed_of_write (d : Decoding level log log' c) :
    (runGroups c.groups (⟨c.clearPending, []⟩ : Traced Chunk) log').1.store =
        (c.settle log').1 ∧
      ∀ w ∈ (runGroups c.groups (⟨c.clearPending, []⟩ : Traced Chunk) log').1.writes,
        (listedLayers? d.tags w.1.sectionY).isSome := by
  obtain ⟨hstore, hlands⟩ := showsWrites.lands_of_traced (fun _ hg => d.lands_of_group hg) log'
  refine ⟨hstore, fun w hw => ?_⟩
  rw [← d.layers?_eq, ← d.lands_iff]
  exact lands_of_frame_eq c.frame_clearPending.symm (hlands w hw)

end Decoding

/-- The rules over the decoded chunk `c₀` and over the tables of the same level: the run over the
chunk ends with `c`. -/
structure AgreesFlat (records tags : List Tag) (c₀ c : Chunk) (log : Array Event) : Prop where
  block_eq : ∀ i, CellStore.block (runGroups c₀.groups
    (FlatStore.ofListed c₀.x c₀.z c₀.fromAlpha records tags) log).1 i = c.block i
  record_eq : ∀ i, CellStore.record? (runGroups c₀.groups
    (FlatStore.ofListed c₀.x c₀.z c₀.fromAlpha records tags) log).1 i = c.entities.get? i
  events_eq : (runGroups c₀.groups
    (FlatStore.ofListed c₀.x c₀.z c₀.fromAlpha records tags) log).2 = (c₀.settle log).2
  traced_eq : (runGroups c₀.groups (⟨c₀.clearPending, []⟩ : Traced Chunk) log).1.store = c
  listed_of_write : ∀ w ∈ (runGroups c₀.groups (⟨c₀.clearPending, []⟩ : Traced Chunk) log).1.writes,
    (listedLayers? tags w.1.sectionY).isSome

/-- **No state written by a rule is lost.**  The rules end with the same states, block entities
and events whether they run over the chunk or over two tables in which every state lands; and no
state goes to a section that is absent or has no block data. -/
theorem flat_run_agrees {level : Tag} {log log' : Array Event} {c : Chunk}
    (h : ofLevel level log = .ok c log') :
    ∃ records tags c₀ mid,
      list? level "TileEntities" = .ok records ∧ list? level "Sections" = .ok tags ∧
      decode level log = .ok c₀ mid ∧ c = (c₀.settle mid).1 ∧
      AgreesFlat records tags c₀ c mid := by
  obtain ⟨c₀, mid, hc₀, rfl, -⟩ := ofLevel_eq_ok_iff.1 h
  obtain ⟨d⟩ := decode_eq_ok_iff.1 hc₀
  have hrun := d.view_flatRun
  have hview := congrArg Prod.fst hrun
  obtain ⟨hstore, hlisted⟩ := d.listed_of_write
  refine ⟨d.records, d.tags, c₀, mid, d.records_eq, d.tags_eq, hc₀, rfl, ?_⟩
  exact ⟨congrFun (congrArg View.block hview), congrFun (congrArg View.record? hview),
    congrArg Prod.snd hrun, hstore, hlisted⟩

/-- the tables of a level with two records for one of its note blocks -/
def crowdedStore : FlatStore := .ofListed 0 0 false crowdedRecords crowdedSections

/-- The note block has the note of the later record, over the tables as over the chunk, and the
record is gone from both; a record in a cell without section is still there. -/
theorem flat_run_agrees_crowded :
    ∃ c₀ c mid log', decode crowdedLevel #[] = .ok c₀ mid ∧
      ofLevel crowdedLevel #[] = .ok c log' ∧ c = (c₀.settle mid).1 ∧
      c.block (.of 15 0) = .ofPairs "minecraft:note_block"
        [("instrument", "harp"), ("note", "7"), ("powered", "false")] ∧
      CellStore.block (runGroups c₀.groups crowdedStore mid).1 (.of 15 0) =
        .ofPairs "minecraft:note_block"
          [("instrument", "harp"), ("note", "7"), ("powered", "false")] ∧
      c.entities.get? (.of 15 0) = none ∧
      CellStore.record? (runGroups c₀.groups crowdedStore mid).1 (.of 15 0) = none ∧
      CellStore.record? (runGroups c₀.groups crowdedStore mid).1 (.of 0 0) =
        some (recordAt 0 0 0) ∧
      (runGroups c₀.groups crowdedStore mid).2 = (c₀.settle mid).2 := by
  obtain ⟨c, log', h⟩ := exists_ofLevel_crowded
  obtain ⟨records, tags, c₀, mid, hrecords, htags, hc₀, rfl, hagrees⟩ := flat_run_agrees h
  obtain rfl : crowdedRecords = records := Except.ok.inj hrecords
  obtain rfl : crowdedSections = tags := Except.ok.inj htags
  obtain ⟨d⟩ := decode_eq_ok_iff.1 hc₀
  have hdrecords : d.records = crowdedRecords := (Except.ok.inj d.records_eq).symm
  have hdtags : d.tags = crowdedSections := (Except.ok.inj d.tags_eq).symm
  have hx : c₀.x = 0 := (Except.ok.inj d.x_eq).symm
  have hz : c₀.z = 0 := (Except.ok.inj d.z_eq).symm
  have hstore : FlatStore.ofListed c₀.x c₀.z c₀.fromAlpha crowdedRecords crowdedSections =
      crowdedStore := by
    rw [hx, hz, d.fromAlpha_eq]
    rfl
  obtain ⟨hblock, hrecord, hevents, -, -⟩ := hagrees
  rw [hstore] at hblock hrecord hevents
  have hnote : (c₀.settle mid).1.block (.of 15 0) = .ofPairs "minecraft:note_block"
      [("instrument", "harp"), ("note", "7"), ("powered", "false")] := by
    obtain ⟨hid, hstate⟩ := @listed_note 0 (by decide)
    rw [← hdtags] at hid hstate
    have hlast : BlockEntities.lastRecord? c₀.x c₀.z d.records (.of 15 0) =
        some (noteAt 7 0 240 0) := by
      rw [hx, hz, hdrecords]
      rfl
    rw [d.block_of_record (by decide) ((d.id?_eq _).trans hid) hlast, d.state_of_listed hstate]
    rfl
  have htaken : (c₀.settle mid).1.entities.get? (.of 15 0) = none := by
    rw [d.get?_settle, hdtags, if_pos (takesRecord_note (by decide))]
  have hkept : (c₀.settle mid).1.entities.get? (.of 0 0) = some (recordAt 0 0 0) := by
    rw [d.get?_settle, hdtags, takesRecord_below, hx, hz, hdrecords]
    rfl
  exact ⟨c₀, _, mid, log', hc₀, h, rfl, hnote, (hblock _).trans hnote, htaken,
    (hrecord _).trans htaken, (hrecord _).trans hkept, hevents⟩

end Chunk

end Flattening
