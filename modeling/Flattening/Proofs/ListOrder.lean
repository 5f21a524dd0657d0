import Flattening.Proofs.Chunk.Conservation
import Flattening.Proofs.Upgrade

/-!
# The order of the lists of a level

Sections are told apart by their heights and block entities by their cells, so the order of the
two lists in a level has no part in what is made of it.  Only the block entities that are left
are written in the order in which they were listed.

* `place_perm`            sections of different heights are placed in any order;
* `shuffled_ofRecords`    block entities of different cells are held alike;
* `SameButOrder.runGroups`   the rules keep it so;
* `SameButOrder.write`    and what is written differs in one list alone;
* `list_order_immaterial` all of it for a level.
-/

namespace Flattening

/-! ## sections -/

namespace Chunk

/-- Of sections with different heights each is the last one for its height. -/
theorem lastListed_iff {tags : List Tag} (hn : (tags.map Section.y?).Nodup) {y : Fin 16} {t : Tag} :
    LastListed tags y t ↔ t ∈ tags ∧ Section.y? t = .ok y := by
  constructor
  · intro h
    refine ⟨mem_of_lastListed h, ?_⟩
    obtain ⟨-, -, -, hy, -⟩ := h
    exact hy
  · rintro ⟨ht, hy⟩
    obtain ⟨before, after, rfl⟩ := List.append_of_mem ht
    rw [List.map_append, List.map_cons] at hn
    have hnot := (List.nodup_cons.1 (List.nodup_append.1 hn).2.1).1
    refine ⟨before, after, rfl, hy, fun u hu hyu => hnot ?_⟩
    rw [hy, ← hyu]
    exact List.mem_map_of_mem hu

/-- Sections of different heights take no place from each other. -/
theorem log_eq_of_place {x z : Int32} {index : Nat} {tags : List Tag}
    {out placed : Vector (Option Section) 16} {log log' : Array Event}
    (hn : (tags.map Section.y?).Nodup)
    (hfree : ∀ t ∈ tags, ∀ y, Section.y? t = .ok y → out.get y = none)
    (h : place x z index tags out log = .ok placed log') : log' = log := by
  induction tags generalizing index out with
  | nil =>
    obtain ⟨-, hlog⟩ := Attempt.pure_eq_ok.1 h
    exact hlog.symm
  | cons t r ih =>
    obtain ⟨s, hs, hr⟩ := place_cons_eq_ok_iff.1 h
    obtain ⟨hnot, hn⟩ := List.nodup_cons.1 hn
    have hy := Section.y?_of_ofTag? hs
    have hnone := hfree t List.mem_cons_self s.y hy
    rw [if_neg (Option.not_isSome_iff_eq_none.2 hnone)] at hr
    refine ih hn (fun u hu y hyu => ?_) hr
    have hne : y ≠ s.y := by
      rintro rfl
      rw [hy, ← hyu] at hnot
      exact hnot (List.mem_map_of_mem hu)
    rw [Table.get_set_ne _ hne]
    exact hfree u (List.mem_cons_of_mem t hu) y hyu

/-- **Sections of different heights are placed in any order.** -/
theorem place_perm {x z : Int32} {tags tags' : List Tag} {placed : Vector (Option Section) 16}
    {log log' : Array Event} (hn : (tags.map Section.y?).Nodup) (hp : tags.Perm tags')
    (h : place x z 0 tags (Vector.replicate 16 none) log = .ok placed log') :
    place x z 0 tags' (Vector.replicate 16 none) log = .ok placed log' := by
  have hn' : (tags'.map Section.y?).Nodup := (hp.map Section.y?).nodup_iff.1 hn
  have hread := ofTag?_of_place h
  obtain ⟨placed', log'', h'⟩ := exists_place x z (fun t ht => hread t (hp.mem_iff.2 ht)) 0
    (Vector.replicate 16 none) log
  have hplaced : placed' = placed := by
    refine Vector.ext fun y hy => Option.ext fun s => ?_
    show placed'.get ⟨y, hy⟩ = some s ↔ placed.get ⟨y, hy⟩ = some s
    rw [get_placed h', get_placed h]
    simp only [lastListed_iff hn, lastListed_iff hn', hp.mem_iff]
  have hfree : ∀ l : List Tag, ∀ t ∈ l, ∀ y, Section.y? t = .ok y →
      (Vector.replicate 16 (none : Option Section)).get y = none :=
    fun _ _ _ y _ => Table.get_replicate none y
  rw [h', hplaced, log_eq_of_place hn (hfree tags) h, log_eq_of_place hn' (hfree tags') h']

namespace Decoding

variable {level : Tag} {log log' : Array Event} {c : Chunk}

theorem get?_insert_self (d : Decoding level log log' c) (key : String) (v : Tag) :
    (level.insert key v).get? key = some v :=
  (congrArg (fun t => (t.insert key v).get? key) d.level_eq).trans
    (Tag.get?_insert_self d.all key v)

/-- The chunk of a level does not depend on the order of its sections. -/
theorem decode_sections (d : Decoding level log log' c) (hn : (d.tags.map Section.y?).Nodup)
    {tags : List Tag} (hp : d.tags.Perm tags) :
    decode (level.insert "Sections" (.list tags)) log = .ok c log' := by
  have hother : ∀ key ≠ "Sections",
      (level.insert "Sections" (.list tags)).get? key = level.get? key :=
    fun key hkey => Tag.get?_insert_ne hkey level _
  refine decode_eq_ok_iff.2 ⟨⟨Entries.insert "Sections" (.list tags) d.all, d.records, tags,
    d.placed, d.between, ?_, ?_, ?_, ?_, ?_, d.entities_eq, place_perm hn hp d.placed_eq,
    d.sides_eq, d.sections_eq, ?_, ?_, d.consumed_eq⟩⟩
  · exact congrArg (fun t => t.insert "Sections" (.list tags)) d.level_eq
  · exact (coordinate?_congr (hother "xPos" (by decide))).trans d.x_eq
  · exact (coordinate?_congr (hother "zPos" (by decide))).trans d.z_eq
  · exact (list?_congr (hother "TileEntities" (by decide))).trans d.records_eq
  · exact list?_of_get? (d.get?_insert_self "Sections" (.list tags))
  · rw [hother "convertedFromAlphaFormat" (by decide)]
    exact d.fromAlpha_eq
  · rw [d.fields_eq, Entries.erase_insert_self]

end Decoding

end Chunk

/-! ## block entities -/

namespace BlockEntities

/-- The cells hold the same; the strays may come in another order, and so may the cells. -/
structure Shuffled (b b' : BlockEntities) : Prop where
  held_eq : b'.held = b.held
  strays_perm : b.strays.Perm b'.strays

namespace Shuffled

variable {b b' : BlockEntities} (h : Shuffled b b')
include h

theorem get?_eq (i : ColumnCell) : b'.get? i = b.get? i := by
  rw [get?, h.held_eq, get?]

theorem records_perm : b.records.Perm b'.records := by
  refine b.records_perm.trans (.trans ?_ b'.records_perm.symm)
  rw [h.held_eq]
  exact h.strays_perm.append_left _

theorem remove (i : ColumnCell) : Shuffled (b.remove i) (b'.remove i) :=
  ⟨congrArg (Entries.erase i) h.held_eq, h.strays_perm⟩

end Shuffled

/-- Of different cells each has one record, so it does not matter where it is listed. -/
theorem lastRecord?_perm {x z : Int32} {records records' : List Tag}
    (hn : (records.filterMap (cellOf? x z)).Nodup) (hp : records.Perm records')
    (i : ColumnCell) : lastRecord? x z records' i = lastRecord? x z records i := by
  have hn' : (records'.filterMap (cellOf? x z)).Nodup := (hp.filterMap _).nodup_iff.1 hn
  rw [List.Nodup, List.pairwise_filterMap] at hn hn'
  have hfilter : (records'.filter fun t => cellOf? x z t = some i) =
      records.filter fun t => cellOf? x z t = some i := by
    refine List.Perm.eq_of_pairwise ?_ (hn'.filter _) (hn.filter _) (hp.symm.filter _)
    intro t u ht hu hne
    have ht := of_decide_eq_true (List.mem_filter.1 ht).2
    have hu := of_decide_eq_true (List.mem_filter.1 hu).2
    exact absurd rfl (hne i ht i hu)
  rw [lastRecord?, hfilter, lastRecord?]

theorem shuffled_ofRecords {x z : Int32} {records records' : List Tag} {b b' : BlockEntities}
    {log₁ log₂ log₁' log₂' : Array Event} (hn : (records.filterMap (cellOf? x z)).Nodup)
    (hp : records.Perm records') (h : ofRecords x z records log₁ = .ok b log₁')
    (h' : ofRecords x z records' log₂ = .ok b' log₂') : Shuffled b b' := by
  have hlisted := holdsListed_ofRecords h
  have hlisted' := holdsListed_ofRecords h'
  refine ⟨Entries.eq_of_get?_eq b'.ascending b.ascending fun i => ?_, ?_⟩
  · show b'.get? i = b.get? i
    rw [hlisted'.get?_eq, hlisted.get?_eq, lastRecord?_perm hn hp]
  · rw [hlisted.strays_eq, hlisted'.strays_eq]
    exact hp.filter _

end BlockEntities

namespace Chunk

/-! ## the rules -/

/-- chunks that differ in no more than the order of their block entities -/
def SameButOrder (c c' : Chunk) : Prop :=
  ∃ b, c' = { c with entities := b } ∧ c.entities.Shuffled b

namespace SameButOrder

variable {c c' : Chunk} (h : SameButOrder c c')
include h

theorem view_eq : CellStore.view c' = CellStore.view c := by
  obtain ⟨b, rfl, hb⟩ := h
  have hrecord : b.get? = c.entities.get? := funext hb.get?_eq
  show (⟨c.block, b.get?, c.fromAlpha⟩ : View) = ⟨c.block, c.entities.get?, c.fromAlpha⟩
  rw [hrecord]

theorem setBlock (i : ColumnCell) (s : BlockState) :
    SameButOrder (c.setBlock i s) (c'.setBlock i s) := by
  obtain ⟨b, rfl, hb⟩ := h
  exact ⟨b, rfl, hb⟩

theorem consume (i : ColumnCell) : SameButOrder (c.consume i) (c'.consume i) := by
  obtain ⟨b, rfl, hb⟩ := h
  refine ⟨b.remove i, ?_, hb.remove i⟩
  unfold Chunk.consume
  dsimp only
  rw [hb.get?_eq]

theorem perform (i : ColumnCell) (e : Edit) :
    SameButOrder (CellStore.perform c i e) (CellStore.perform c' i e) := by
  have hwrites : ∀ (l : List (ColumnCell × BlockState)) {c c' : Chunk}, SameButOrder c c' →
      SameButOrder (l.foldl (fun c w => Chunk.setBlock c w.1 w.2) c)
        (l.foldl (fun c w => Chunk.setBlock c w.1 w.2) c') := by
    intro l
    induction l with
    | nil => exact fun h => h
    | cons w l ih => exact fun h => ih (h.setBlock w.1 w.2)
  refine hwrites e.writes ?_
  split
  · exact h.consume i
  · exact h

end SameButOrder

theorem SameButOrder.runGroups {c c' : Chunk} (h : SameButOrder c c') (gs : List Group)
    (log log' : Array Event) :
    SameButOrder (Chunk.runGroups gs c log).1 (Chunk.runGroups gs c' log').1 := by
  refine runGroups_related (C := fun _ _ => True)
    (R := fun (p q : Chunk × Array Event) => SameButOrder p.1 q.1) ?_ (fun _ _ _ _ => trivial)
    (p := (c, log)) (q := (c', log')) h
  intro _ r i p q _ _ hpq
  -- the rule sees the same in both, so it plans the same
  obtain ⟨e, he, hs⟩ | ⟨u, hu, hs⟩ := r.stepReporting_cases p i
  · rw [← hpq.view_eq] at he
    rw [hs, Rule.stepReporting_of_ok he]
    exact hpq.perform i e
  · rw [← hpq.view_eq] at hu
    rw [hs, Rule.stepReporting_of_error hu]
    exact hpq

theorem SameButOrder.settle {c c' : Chunk} (h : SameButOrder c c') (log log' : Array Event) :
    SameButOrder (c.settle log).1 (c'.settle log').1 := by
  have hgroups : c'.groups = c.groups := by
    obtain ⟨b, rfl, -⟩ := h
    rfl
  have hclear : SameButOrder c.clearPending c'.clearPending := by
    obtain ⟨b, rfl, hb⟩ := h
    exact ⟨b, rfl, hb⟩
  rw [Chunk.settle, Chunk.settle, hgroups]
  exact hclear.runGroups c.groups log log'

end Chunk

/-! ## what is written -/

/-- `u` is `t`, but that the list under the key may be in another order. -/
def SameButListOrder (key : String) (t u : Tag) : Prop :=
  u = t ∨ ∃ l l', t.get? key = some (.list l) ∧ l.Perm l' ∧ u = t.insert key (.list l')

namespace Chunk

theorem SameButOrder.write {c c' : Chunk} (h : SameButOrder c c') {out : Tag}
    (hw : c.write = .ok out) :
    ∃ out', c'.write = .ok out' ∧ SameButListOrder "TileEntities" out out' := by
  obtain ⟨b, rfl, hb⟩ := h
  obtain ⟨tags, htags, rfl⟩ := write_eq_ok_iff.1 hw
  refine ⟨_, write_eq_ok_iff.2 ⟨tags, htags, rfl⟩, ?_⟩
  have hperm := hb.records_perm
  have hdata : ({ c with entities := b } : Chunk).upgradeData = c.upgradeData := rfl
  rw [SameButListOrder, entriesWith, entriesWith, hdata]
  dsimp only
  rw [← hperm.isEmpty_eq]
  split
  · exact .inl rfl
  · have hcomm := Entries.insert_comm (by decide : "TileEntities" ≠ "UpgradeData")
      (Tag.list b.records) c.upgradeData.toTag
    refine .inr ⟨c.entities.records, b.records, ?_, hperm, ?_⟩
    · rw [Tag.get?_compound, Entries.get?_insert_ne (by decide), Entries.get?_insert_self]
    · rw [Tag.insert_compound, hcomm, Entries.insert_insert_self]

namespace Decoding

variable {level : Tag} {log log' : Array Event} {c : Chunk}

/-- The block entities in another order give the same chunk, but for their order. -/
theorem exists_decode_records (d : Decoding level log log' c) {records : List Tag}
    (hn : (d.records.filterMap (BlockEntities.cellOf? c.x c.z)).Nodup)
    (hp : d.records.Perm records) :
    ∃ c' mid, decode (level.insert "TileEntities" (.list records)) log = .ok c' mid ∧
      SameButOrder c c' := by
  have hother : ∀ key ≠ "TileEntities",
      (level.insert "TileEntities" (.list records)).get? key = level.get? key :=
    fun key hkey => Tag.get?_insert_ne hkey level _
  have hcompound := (BlockEntities.ofRecords_eq_ok d.entities_eq).1
  obtain ⟨b, between, hb⟩ := BlockEntities.exists_ofRecords c.x c.z
    (fun t ht => hcompound t (hp.mem_iff.2 ht)) log
  obtain ⟨placed, mid, hplaced⟩ := exists_place c.x c.z (ofTag?_of_place d.placed_eq) 0
    (Vector.replicate 16 none) between
  have hsame : placed = d.placed := by
    refine Vector.ext fun y hy => Option.ext fun s => ?_
    show placed.get ⟨y, hy⟩ = some s ↔ d.placed.get ⟨y, hy⟩ = some s
    rw [get_placed hplaced, get_placed d.placed_eq]
  refine ⟨{ c with entities := b }, mid, decode_eq_ok_iff.2
    ⟨⟨Entries.insert "TileEntities" (.list records) d.all, records, d.tags, placed, between, ?_,
      ?_, ?_, ?_, ?_, hb, hplaced, ?_, ?_, ?_, ?_, d.consumed_eq⟩⟩, b, rfl,
    BlockEntities.shuffled_ofRecords hn hp d.entities_eq hb⟩
  · exact congrArg (fun t => t.insert "TileEntities" (.list records)) d.level_eq
  · exact (coordinate?_congr (hother "xPos" (by decide))).trans d.x_eq
  · exact (coordinate?_congr (hother "zPos" (by decide))).trans d.z_eq
  · exact list?_of_get? (d.get?_insert_self "TileEntities" (.list records))
  · exact (list?_congr (hother "Sections" (by decide))).trans d.tags_eq
  · rw [hsame]
    exact d.sides_eq
  · rw [hsame]
    exact d.sections_eq
  · rw [hother "convertedFromAlphaFormat" (by decide)]
    exact d.fromAlpha_eq
  · rw [Entries.erase_comm, Entries.erase_insert_self, Entries.erase_comm]
    exact d.fields_eq

end Decoding

end Chunk

open Chunk

/-- **The order of the lists does not matter.**  Take a level that is upgraded.  If its sections
have different heights, they give the same in any order, and the same is reported.  If its block
entities belong to different cells, or to none, they give the same in any order, but for the order
in which those that are left are written. -/
theorem list_order_immaterial {level out : Tag} {log log' : Array Event}
    (h : upgradeLevel level log = .ok out log') :
    (∀ tags tags', list? level "Sections" = .ok tags → (tags.map Section.y?).Nodup →
      tags.Perm tags' →
        upgradeLevel (level.insert "Sections" (.list tags')) log = .ok out log') ∧
    ∀ x z records records', coordinate? level "xPos" = .ok x → coordinate? level "zPos" = .ok z →
      list? level "TileEntities" = .ok records →
      (records.filterMap (BlockEntities.cellOf? x z)).Nodup → records.Perm records' →
        ∃ out' log'',
          upgradeLevel (level.insert "TileEntities" (.list records')) log = .ok out' log'' ∧
          SameButListOrder "TileEntities" out out' := by
  obtain ⟨c, hc, hw⟩ := upgradeLevel_eq_ok_iff.1 h
  obtain ⟨c, mid, hdecode, rfl, hlog⟩ := ofLevel_eq_ok_iff.1 hc
  obtain ⟨d⟩ := decode_eq_ok_iff.1 hdecode
  constructor
  · intro tags tags' htags hn hp
    obtain rfl := Except.ok.inj (d.tags_eq.symm.trans htags)
    have hdecode' := d.decode_sections hn hp
    exact upgradeLevel_eq_ok_iff.2 ⟨_, ofLevel_eq_ok_iff.2 ⟨c, mid, hdecode', rfl, hlog⟩, hw⟩
  · intro x z records records' hx hz hrecords hn hp
    obtain rfl := Except.ok.inj (d.x_eq.symm.trans hx)
    obtain rfl := Except.ok.inj (d.z_eq.symm.trans hz)
    obtain rfl := Except.ok.inj (d.records_eq.symm.trans hrecords)
    obtain ⟨c', mid', hdecode', hsame⟩ := d.exists_decode_records hn hp
    obtain ⟨out', hw', hout⟩ := (hsame.settle mid mid').write hw
    exact ⟨out', _, upgradeLevel_eq_ok_iff.2
      ⟨_, ofLevel_eq_ok_iff.2 ⟨c', mid', hdecode', rfl, rfl⟩, hw'⟩, hout⟩

/-- two sections -/
def endSections (y z : Fin 16) : List Tag := [sectionOf y halvedIds, sectionOf z halvedIds]

/-- block entities of two cells, and one of no cell -/
def placedRecords : List Tag := [recordAt 0 240 0, .compound [], recordAt 1 0 0]

theorem list_order_immaterial_reversed :
    ∃ out log, upgradeLevel (levelWith (endSections 0 15) placedRecords) #[] = .ok out log ∧
      upgradeLevel ((levelWith (endSections 0 15) placedRecords).insert "Sections"
        (.list (endSections 0 15).reverse)) #[] = .ok out log ∧
      ∃ out' log', upgradeLevel ((levelWith (endSections 0 15) placedRecords).insert
          "TileEntities" (.list placedRecords.reverse)) #[] = .ok out' log' ∧
        SameButListOrder "TileEntities" out out' := by
  have hsections : ∀ t ∈ endSections 0 15, ∃ s, Section.ofTag? t = .ok s :=
    ofTag?_of_mem_pair ⟨_, ofTag?_sectionOf 0 halvedIds⟩ ⟨_, ofTag?_sectionOf 15 halvedIds⟩
  have hcompound : ∀ t ∈ placedRecords, t.entries?.isSome := by
    intro t ht
    simp only [placedRecords, List.mem_cons, List.not_mem_nil, or_false] at ht
    rcases ht with rfl | rfl | rfl <;> rfl
  obtain ⟨c, log, hc⟩ := exists_ofLevel_levelWith hsections hcompound #[]
  obtain ⟨out, hw⟩ := exists_write_of_ofLevel hc
  have h := upgradeLevel_eq_ok_iff.2 ⟨c, hc, hw⟩
  have hheights : ((endSections 0 15).map Section.y?).Nodup := by
    rw [endSections, List.map_cons, List.map_singleton, y?_sectionOf, y?_sectionOf]
    simp [Fin.ext_iff]
  have hcells : (placedRecords.filterMap (BlockEntities.cellOf? 0 0)).Nodup := by
    decide
  obtain ⟨hs, hr⟩ := list_order_immaterial h
  exact ⟨out, log, h, hs _ _ rfl hheights (List.reverse_perm _).symm,
    hr 0 0 _ _ rfl rfl rfl hcells (List.reverse_perm _).symm⟩

end Flattening
