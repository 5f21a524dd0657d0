import Flattening.Proofs.Chunk.Held
import Mathlib.Order.Fin.Basic

/-!
# The block entities read from a list

Each cell holds the last record listed for it, and the cells come in the order in which the list
first names them.  A record without a cell is a stray.  A record that takes the place of another
is reported, so those held and those reported make up the list.

* `ofRecords_eq_ok`    a list is read record by record, and no record goes by unnoticed;
* `holdsListed_ofRecords`   what is read from a list is what the list says;
* `subperm_ofRecords`  no record is held that was not listed.
-/

namespace Flattening

/-- The event says that a block entity lost its place to another one. -/
def Event.isDuplicateRecord : Event → Bool
  | .duplicateBlockEntity _ => true
  | _ => false

namespace BlockEntities

/-! ## one record -/

/-- The record has whole coordinates, and a height that a chunk has. -/
def isPlaceable (t : Tag) : Bool :=
  match coordinates? t with
  | some (_, y, _) => decide (0 ≤ y.toInt ∧ y.toInt < 256)
  | none => false

/-- the cell that a record is put into, if there is one -/
def cellOf? (x z : Int32) (t : Tag) : Option ColumnCell :=
  (coordinates? t).bind fun p => ColumnCell.ofWorld? x z p.1 p.2.1 p.2.2

theorem isSome_cellOf? (x z : Int32) (t : Tag) : (cellOf? x z t).isSome = isPlaceable t := by
  unfold cellOf? isPlaceable
  cases coordinates? t with
  | none => rfl
  | some p =>
    rw [Option.bind_some, ColumnCell.ofWorld?]
    split
    · rename_i h
      exact (decide_eq_true h).symm
    · rename_i h
      exact (decide_eq_false h).symm

/-- A record goes into its cell or, without one, to the strays. -/
def withRecord (x z : Int32) (b : BlockEntities) (t : Tag) : BlockEntities :=
  match cellOf? x z t with
  | some i => b.insert i t
  | none => b.addStray t

theorem withRecord_of_some {x z : Int32} {t : Tag} {i : ColumnCell} (h : cellOf? x z t = some i)
    (b : BlockEntities) : b.withRecord x z t = b.insert i t := by
  rw [withRecord, h]

theorem withRecord_of_none {x z : Int32} {t : Tag} (h : cellOf? x z t = none)
    (b : BlockEntities) : b.withRecord x z t = b.addStray t := by
  rw [withRecord, h]

/-- A record that is put into a taken cell is reported. -/
theorem insertReporting_eq_ok {ε : Type} {b b' : BlockEntities} {i : ColumnCell} {t : Tag}
    {log log' : Array Event}
    (h : (insertReporting b i t : Attempt ε BlockEntities) log = .ok b' log') :
    b' = b.insert i t ∧ ∃ events, log' = log ++ events ∧
      b'.size + events.countP Event.isDuplicateRecord = b.size + 1 := by
  have hsize := b.size_insert i t
  unfold insertReporting at h
  split at h
  · rename_i hd
    obtain ⟨u, mid, hr, h⟩ := Attempt.bind_eq_ok.1 h
    obtain ⟨rfl, rfl⟩ := Attempt.pure_eq_ok.1 h
    rw [if_pos hd] at hsize
    exact ⟨rfl, #[.duplicateBlockEntity i], Attempt.report_eq_ok.1 hr, hsize⟩
  · rename_i hd
    obtain ⟨rfl, rfl⟩ := Attempt.pure_eq_ok.1 h
    rw [if_neg hd] at hsize
    exact ⟨rfl, #[], Array.append_empty.symm, hsize⟩

theorem exists_insertReporting {ε : Type} (b : BlockEntities) (i : ColumnCell) (t : Tag)
    (log : Array Event) : ∃ log',
      (insertReporting b i t : Attempt ε BlockEntities) log = .ok (b.insert i t) log' := by
  unfold insertReporting
  split
  · exact ⟨_, rfl⟩
  · exact ⟨_, rfl⟩

/-- A record is put into its place, and a record that loses its place to it is reported. -/
theorem addRecord_eq_ok {x z : Int32} {b b' : BlockEntities} {t : Tag} {log log' : Array Event}
    (h : addRecord x z b t log = .ok b' log') :
    t.entries?.isSome ∧ b' = b.withRecord x z t ∧
      ∃ events, log' = log ++ events ∧
        b'.size + events.countP Event.isDuplicateRecord = b.size + 1 := by
  unfold addRecord at h
  have ht : t.entries?.isSome := by
    cases ht : t.entries? with
    | some m => rfl
    | none =>
      rw [ht] at h
      obtain ⟨u, mid, hu, -⟩ := Attempt.bind_eq_ok.1 h
      exact absurd hu Attempt.throw_ne_ok
  have hnot : ¬ t.entries?.isNone = true := by
    rw [Option.isNone_iff_eq_none, ← Ne, Option.ne_none_iff_isSome]
    exact ht
  rw [if_neg hnot] at h
  refine ⟨ht, ?_⟩
  cases hc : coordinates? t with
  | none =>
    rw [hc] at h
    obtain ⟨u', mid', hr, h⟩ := Attempt.bind_eq_ok.1 h
    obtain ⟨rfl, rfl⟩ := Attempt.pure_eq_ok.1 h
    have hcell : cellOf? x z t = none := by rw [cellOf?, hc]; rfl
    exact ⟨(withRecord_of_none hcell b).symm, #[.blockEntityUnplaced], Attempt.report_eq_ok.1 hr,
      b.size_addStray t⟩
  | some p =>
    obtain ⟨px, py, pz⟩ := p
    rw [hc] at h
    dsimp only at h
    have hcell : cellOf? x z t = ColumnCell.ofWorld? x z px py pz := by rw [cellOf?, hc]; rfl
    cases hi : ColumnCell.ofWorld? x z px py pz with
    | none =>
      rw [hi] at h hcell
      obtain ⟨u', mid', hr, h⟩ := Attempt.bind_eq_ok.1 h
      obtain ⟨rfl, rfl⟩ := Attempt.pure_eq_ok.1 h
      exact ⟨(withRecord_of_none hcell b).symm, #[.blockEntityOutside px py pz],
        Attempt.report_eq_ok.1 hr, b.size_addStray t⟩
    | some i =>
      rw [hi] at h hcell
      rw [withRecord_of_some hcell]
      exact insertReporting_eq_ok h

theorem exists_addRecord {t : Tag} (h : t.entries?.isSome) (x z : Int32) (b : BlockEntities)
    (log : Array Event) : ∃ b' log', addRecord x z b t log = .ok b' log' := by
  have hnot : ¬ t.entries?.isNone = true := by
    rw [Option.isNone_iff_eq_none, ← Ne, Option.ne_none_iff_isSome]
    exact h
  unfold addRecord
  rw [if_neg hnot]
  split
  · exact ⟨_, _, rfl⟩
  · split
    · exact ⟨_, _, rfl⟩
    · exact ⟨_, exists_insertReporting b _ t log⟩

/-! ## a list of records -/

/-- **A list is read record by record.**  The records held and those that lost their place make
up the list. -/
theorem ofRecords_eq_ok {x z : Int32} {records : List Tag} {b : BlockEntities}
    {log log' : Array Event} (h : ofRecords x z records log = .ok b log') :
    (∀ t ∈ records, t.entries?.isSome) ∧ b = records.foldl (withRecord x z) empty ∧
      ∃ events, log' = log ++ events ∧
        b.size + events.countP Event.isDuplicateRecord = records.length := by
  have hall : ∀ (l : List Tag) (b₀ b : BlockEntities) (log log' : Array Event),
      l.foldlM (addRecord x z) b₀ log = .ok b log' →
        (∀ t ∈ l, t.entries?.isSome) ∧ b = l.foldl (withRecord x z) b₀ ∧
          ∃ events, log' = log ++ events ∧
            b.size + events.countP Event.isDuplicateRecord = b₀.size + l.length := by
    intro l
    induction l with
    | nil =>
      intro b₀ b log log' h
      obtain ⟨rfl, rfl⟩ := Attempt.pure_eq_ok.1 h
      exact ⟨fun t ht => absurd ht List.not_mem_nil, rfl, #[], (Array.append_empty).symm, rfl⟩
    | cons t l ih =>
      intro b₀ b log log' h
      rw [List.foldlM_cons] at h
      obtain ⟨b₁, mid, hb₁, h⟩ := Attempt.bind_eq_ok.1 h
      obtain ⟨ht, rfl, first, rfl, hfirst⟩ := addRecord_eq_ok hb₁
      obtain ⟨hl, rfl, rest, rfl, hrest⟩ := ih _ _ _ _ h
      refine ⟨fun u hu => ?_, rfl, first ++ rest, Array.append_assoc, ?_⟩
      · rcases List.mem_cons.1 hu with rfl | hu
        · exact ht
        · exact hl u hu
      · rw [Array.countP_append, List.length_cons]
        omega
  obtain ⟨hcompound, hb, events, hlog, htotal⟩ := hall records empty b log log' h
  refine ⟨hcompound, hb, events, hlog, htotal.trans ?_⟩
  exact Nat.zero_add records.length

/-- A list of compounds is read. -/
theorem exists_ofRecords (x z : Int32) {records : List Tag}
    (h : ∀ t ∈ records, t.entries?.isSome) (log : Array Event) :
    ∃ b log', ofRecords x z records log = .ok b log' := by
  have hall : ∀ (l : List Tag) (b : BlockEntities) (log : Array Event),
      (∀ t ∈ l, t.entries?.isSome) → ∃ b' log', l.foldlM (addRecord x z) b log = .ok b' log' := by
    intro l
    induction l with
    | nil => exact fun b log _ => ⟨b, log, rfl⟩
    | cons t l ih =>
      intro b log hl
      obtain ⟨b₁, mid, hfirst⟩ := exists_addRecord (hl t List.mem_cons_self) x z b log
      obtain ⟨b', log', hrest⟩ := ih b₁ mid fun u hu => hl u (List.mem_cons_of_mem t hu)
      refine ⟨b', log', ?_⟩
      rw [List.foldlM_cons]
      exact Attempt.bind_eq_ok.2 ⟨b₁, mid, hfirst, hrest⟩
  exact hall records empty log h

/-- the cells that records of the list belong to, in the order of the first one -/
def placedCells (x z : Int32) (records : List Tag) : List ColumnCell :=
  (records.filterMap (cellOf? x z)).eraseDups

/-- the record listed last for a cell -/
def lastRecord? (x z : Int32) (records : List Tag) (i : ColumnCell) : Option Tag :=
  (records.filter fun t => cellOf? x z t = some i).getLast?

/-- the records that belong to no cell -/
def strayRecords (records : List Tag) : List Tag := records.filter fun t => !isPlaceable t

theorem mem_placedCells {x z : Int32} {records : List Tag} {i : ColumnCell} :
    i ∈ placedCells x z records ↔ ∃ t ∈ records, cellOf? x z t = some i := by
  rw [placedCells, List.mem_eraseDups, List.mem_filterMap]

theorem lastRecord?_isSome_iff {x z : Int32} {records : List Tag} {i : ColumnCell} :
    (lastRecord? x z records i).isSome ↔ i ∈ placedCells x z records := by
  rw [lastRecord?, isSome_getLast?_filter, mem_placedCells]
  simp only [decide_eq_true_eq]

theorem placedCells_concat_of_none {x z : Int32} {t : Tag} (h : cellOf? x z t = none)
    (records : List Tag) : placedCells x z (records ++ [t]) = placedCells x z records := by
  rw [placedCells, List.filterMap_append, List.filterMap_cons, h, List.filterMap_nil,
    List.append_nil, placedCells]

theorem placedCells_concat_of_some {x z : Int32} {t : Tag} {i : ColumnCell}
    (h : cellOf? x z t = some i) (records : List Tag) :
    placedCells x z (records ++ [t]) =
      if i ∈ placedCells x z records then placedCells x z records
      else placedCells x z records ++ [i] := by
  have hmem : i ∈ placedCells x z records ↔ i ∈ records.filterMap (cellOf? x z) :=
    List.mem_eraseDups
  rw [placedCells, List.filterMap_append, List.filterMap_cons, h, List.filterMap_nil,
    eraseDups_concat]
  by_cases hi : i ∈ records.filterMap (cellOf? x z)
  · rw [if_pos hi, if_pos (hmem.2 hi), placedCells]
  · rw [if_neg hi, if_neg (mt hmem.1 hi), placedCells]

theorem lastRecord?_concat (x z : Int32) (records : List Tag) (t : Tag) (i : ColumnCell) :
    lastRecord? x z (records ++ [t]) i =
      if cellOf? x z t = some i then some t else lastRecord? x z records i := by
  rw [lastRecord?, List.filter_append, List.filter_cons, List.filter_nil]
  split
  · rename_i h
    rw [if_pos (of_decide_eq_true h), List.getLast?_concat]
  · rename_i h
    rw [if_neg fun h' => h (decide_eq_true h'), List.append_nil, lastRecord?]

theorem strayRecords_concat (x z : Int32) (records : List Tag) (t : Tag) :
    strayRecords (records ++ [t]) =
      if cellOf? x z t = none then strayRecords records ++ [t] else strayRecords records := by
  rw [strayRecords, List.filter_append, List.filter_cons, List.filter_nil, ← isSome_cellOf? x z]
  cases cellOf? x z t with
  | none => rfl
  | some i => exact List.append_nil _

/-- What is held is what the list says: each cell has the last record listed for it, and the
cells and the strays come in the order of the list. -/
structure HoldsListed (x z : Int32) (records : List Tag) (b : BlockEntities) : Prop where
  cells_eq : b.cells = placedCells x z records
  get?_eq : ∀ i, b.get? i = lastRecord? x z records i
  strays_eq : b.strays = strayRecords records

theorem HoldsListed.withRecord {x z : Int32} {records : List Tag} {b : BlockEntities}
    (h : HoldsListed x z records b) (t : Tag) :
    HoldsListed x z (records ++ [t]) (b.withRecord x z t) := by
  cases hc : cellOf? x z t with
  | none =>
    rw [withRecord_of_none hc]
    refine ⟨?_, fun j => ?_, ?_⟩
    · rw [placedCells_concat_of_none hc, ← h.cells_eq]
      rfl
    · rw [lastRecord?_concat, hc, if_neg nofun, ← h.get?_eq]
      rfl
    · rw [strayRecords_concat x z, if_pos hc, ← h.strays_eq]
      rfl
  | some i =>
    rw [withRecord_of_some hc]
    refine ⟨?_, fun j => ?_, ?_⟩
    · rw [cells_insert, placedCells_concat_of_some hc, ← h.cells_eq]
    · rw [lastRecord?_concat, hc]
      by_cases hj : j = i
      · rw [hj, if_pos rfl, get?_insert_self]
      · have hne : some i ≠ some j := fun he => hj (Option.some.inj he).symm
        rw [if_neg hne, get?_insert_ne hj, h.get?_eq]
    · have hn : cellOf? x z t ≠ none := by
        rw [hc]
        exact nofun
      rw [strayRecords_concat x z, if_neg hn, ← h.strays_eq]
      rfl

/-- **What is read from a list is what the list says.** -/
theorem holdsListed_ofRecords {x z : Int32} {records : List Tag} {b : BlockEntities}
    {log log' : Array Event} (h : ofRecords x z records log = .ok b log') :
    HoldsListed x z records b := by
  have hall : ∀ l : List Tag, HoldsListed x z l (l.foldl (BlockEntities.withRecord x z) empty) := by
    -- from the end: the record read last decides what its cell holds
    intro l
    induction l using List.reverseRecOn with
    | nil => exact ⟨rfl, fun _ => rfl, rfl⟩
    | append_singleton l t ih =>
      rw [List.foldl_append]
      exact ih.withRecord t
  rw [(ofRecords_eq_ok h).2.1]
  exact hall records

theorem records_withRecord_subperm (x z : Int32) (b : BlockEntities) (t : Tag) :
    List.Subperm (b.withRecord x z t).records (t :: b.records) := by
  unfold withRecord
  split
  · exact b.records_insert_subperm _ t
  · rw [records_addStray]
    exact (List.perm_append_singleton t b.records).subperm

/-- No record is held that was not listed, and none twice. -/
theorem subperm_ofRecords {x z : Int32} {records : List Tag} {b : BlockEntities}
    {log log' : Array Event} (h : ofRecords x z records log = .ok b log') :
    List.Subperm b.records records := by
  have hall : ∀ (l : List Tag) (b : BlockEntities),
      List.Subperm (l.foldl (withRecord x z) b).records (b.records ++ l) := by
    intro l
    induction l with
    | nil =>
      intro b
      rw [List.append_nil]
      exact List.Subperm.refl _
    | cons t l ih =>
      intro b
      refine (ih (b.withRecord x z t)).trans ?_
      have h := (List.subperm_append_right l).2 (b.records_withRecord_subperm x z t)
      exact h.trans List.perm_middle.symm.subperm
  rw [(ofRecords_eq_ok h).2.1]
  exact hall records empty

end BlockEntities

end Flattening
