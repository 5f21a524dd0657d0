import Flattening.Proofs.Entries
import Flattening.Proofs.Chunk.Reading
import Mathlib.Data.List.Induction
import Mathlib.Data.List.Perm.Subperm

/-!
# The block entities that are held

The order in which cells were filled names a cell again whenever it was filled anew, and names
cells that are empty by now.  Draining it finds each block entity once all the same, at the first
place that names its cell.

* `eq_of_get?_eq`  what the cells hold, their order and the strays are all there is;
* `drain_eq`       what is found is what the cells hold, each cell taken once;
* `records_eq`     so the records are those of the cells, then the strays;
* `drain_perm`     nothing that is held is missed;
* `size_insert`, `size_remove`   the number of block entities after a step;
* `records_insert_subperm`, `records_remove_subperm`   no step brings in another record.
-/

namespace Flattening

theorem nodup_eraseDups {α : Type} [DecidableEq α] (l : List α) : l.eraseDups.Nodup := by
  induction l using List.reverseRecOn with
  | nil => exact List.nodup_nil
  | append_singleton l a ih =>
    rw [eraseDups_concat]
    split
    · exact ih
    · rename_i ha
      have hnot : a ∉ l.eraseDups := mt List.mem_eraseDups.1 ha
      exact (List.perm_append_singleton a _).nodup_iff.2 (List.nodup_cons.2 ⟨hnot, ih⟩)

namespace BlockEntities

/-- the cells that were ever filled, in the order of the first time -/
def cells (b : BlockEntities) : List ColumnCell := b.order.eraseDups

theorem nodup_cells (b : BlockEntities) : b.cells.Nodup := nodup_eraseDups b.order

theorem mem_cells {b : BlockEntities} {i : ColumnCell} : i ∈ b.cells ↔ i ∈ b.order :=
  List.mem_eraseDups

theorem mem_cells_of_isSome {b : BlockEntities} {i : ColumnCell} (h : (b.get? i).isSome) :
    i ∈ b.cells := mem_cells.2 (mem_order_of_isSome h)

/-- A cell that was filled before stays where it is. -/
theorem cells_insert (b : BlockEntities) (i : ColumnCell) (t : Tag) :
    (b.insert i t).cells = if i ∈ b.cells then b.cells else b.cells ++ [i] := by
  show (b.orderWith i).eraseDups = _
  rw [orderWith]
  split
  · rename_i h
    rw [if_pos (mem_cells_of_isSome h), cells]
  · rw [eraseDups_concat]
    simp only [mem_cells]
    rfl

theorem mem_cells_insert {b : BlockEntities} {i j : ColumnCell} {t : Tag} :
    j ∈ (b.insert i t).cells ↔ j ∈ b.cells ∨ j = i := by
  rw [mem_cells, mem_cells]
  exact mem_orderWith

theorem cells_remove (b : BlockEntities) (i : ColumnCell) : (b.remove i).cells = b.cells := rfl

/-- Block entities are told apart by the order of the cells, what they hold, and the strays. -/
theorem eq_of_get?_eq {b b' : BlockEntities} (ho : b.order = b'.order)
    (hs : b.strays = b'.strays) (h : ∀ i, b.get? i = b'.get? i) : b = b' := by
  have hheld : b.held = b'.held := Entries.eq_of_get?_eq b.ascending b'.ascending h
  cases b
  cases b'
  cases hheld
  cases ho
  cases hs
  rfl

/-! ## draining -/

theorem drain_concat (l : List ColumnCell) (i : ColumnCell) (m : Entries ColumnCell Tag) :
    drain (l ++ [i]) m = drain l m ++ if i ∈ l then [] else (Entries.get? i m).toList := by
  induction l generalizing m with
  | nil =>
    rw [List.nil_append, if_neg List.not_mem_nil, drain_nil, List.nil_append]
    cases h : Entries.get? i m with
    | none => exact drain_cons_of_none h []
    | some t => exact drain_cons_of_some h []
  | cons j l ih =>
    rw [List.cons_append]
    cases h : Entries.get? j m with
    | none =>
      rw [drain_cons_of_none h, drain_cons_of_none h, ih]
      by_cases hij : i = j
      · rw [hij, h, Option.toList_none, ite_self, if_pos List.mem_cons_self]
      · simp only [List.mem_cons, hij, false_or]
    | some t =>
      rw [drain_cons_of_some h, drain_cons_of_some h, ih, List.cons_append]
      by_cases hij : i = j
      · rw [hij, Entries.get?_erase_self, Option.toList_none, ite_self,
          if_pos List.mem_cons_self]
      · rw [Entries.get?_erase_ne hij]
        simp only [List.mem_cons, hij, false_or]

/-- Each cell is found once, at the first place that names it. -/
theorem drain_eq (l : List ColumnCell) (m : Entries ColumnCell Tag) :
    drain l m = l.eraseDups.filterMap fun i => Entries.get? i m := by
  induction l using List.reverseRecOn with
  | nil => rfl
  | append_singleton l i ih =>
    rw [drain_concat, eraseDups_concat, ih]
    split
    · exact List.append_nil _
    · rw [List.filterMap_append, List.filterMap_cons]
      cases Entries.get? i m with
      | none => rfl
      | some t => rfl

/-- **The records are those of the cells, then the strays.** -/
theorem records_eq (b : BlockEntities) : b.records = b.cells.filterMap b.get? ++ b.strays := by
  rw [records, drain_eq]
  rfl

/-- No block entity is missed, as long as the order names all cells that hold one. -/
theorem drain_perm {l : List ColumnCell} {m : Entries ColumnCell Tag}
    (hn : (m.map Prod.fst).Nodup) (h : ∀ p ∈ m, p.1 ∈ l) :
    (drain l m).Perm (m.map Prod.snd) := by
  induction l generalizing m with
  | nil =>
    rw [List.eq_nil_iff_forall_not_mem.2 fun p hp => List.not_mem_nil (h p hp)]
    exact .refl _
  | cons i l ih =>
    cases hi : Entries.get? i m with
    | none =>
      rw [drain_cons_of_none hi]
      refine ih hn fun p hp => (List.mem_cons.1 (h p hp)).resolve_left fun heq => ?_
      have hp' : Entries.get? p.1 m = some p.2 := (Entries.get?_eq_some_iff hn).2 hp
      rw [heq, hi] at hp'
      cases hp'
    | some t =>
      rw [drain_cons_of_some hi]
      have hrest : ∀ p ∈ Entries.erase i m, p.1 ∈ l := fun p hp =>
        (List.mem_cons.1 (h p (Entries.mem_erase.1 hp).1)).resolve_left (Entries.mem_erase.1 hp).2
      refine ((ih (Entries.nodup_keys_erase i hn) hrest).cons t).trans ?_
      exact ((Entries.perm_cons_erase hn hi).map Prod.snd).symm

theorem records_perm (b : BlockEntities) : b.records.Perm (b.held.map Prod.snd ++ b.strays) :=
  (drain_perm (Entries.nodup_of_ascending b.ascending) b.mem_order).append_right b.strays

theorem length_records (b : BlockEntities) : b.records.length = b.size := by
  rw [b.records_perm.length_eq, List.length_append, List.length_map, size]

/-! ## one step -/

/-- A block entity that is put into a cell is one more, unless it takes the place of another. -/
theorem size_insert (b : BlockEntities) (i : ColumnCell) (t : Tag) :
    (b.insert i t).size + (if (b.get? i).isSome then 1 else 0) = b.size + 1 := by
  have hlen := Entries.length_erase i (Entries.nodup_of_ascending b.ascending)
  have hput := (Entries.insert_perm_erase i t b.ascending).length_eq
  rw [List.length_cons] at hput
  have hsize : (b.insert i t).size = (Entries.insert i t b.held).length + b.strays.length := rfl
  rw [hsize, hput, size, ← hlen, get?]
  omega

/-- A block entity that is taken is one less. -/
theorem size_remove (b : BlockEntities) (i : ColumnCell) :
    (b.remove i).size + (if (b.get? i).isSome then 1 else 0) = b.size := by
  have hlen := Entries.length_erase i (Entries.nodup_of_ascending b.ascending)
  have hsize : (b.remove i).size = (Entries.erase i b.held).length + b.strays.length := rfl
  rw [hsize, size, ← hlen, get?]
  omega

theorem records_addStray (b : BlockEntities) (t : Tag) :
    (b.addStray t).records = b.records ++ [t] := (List.append_assoc _ _ _).symm

theorem size_addStray (b : BlockEntities) (t : Tag) : (b.addStray t).size = b.size + 1 := by
  rw [← length_records, ← length_records, records_addStray, List.length_append]
  rfl

theorem records_remove_subperm (b : BlockEntities) (i : ColumnCell) :
    List.Subperm (b.remove i).records b.records := by
  have hrest : List.Sublist ((Entries.erase i b.held).map Prod.snd ++ b.strays)
      (b.held.map Prod.snd ++ b.strays) :=
    ((Entries.erase_sublist i b.held).map Prod.snd).append_right b.strays
  exact (b.remove i).records_perm.subperm.trans (hrest.subperm.trans b.records_perm.symm.subperm)

theorem records_insert_subperm (b : BlockEntities) (i : ColumnCell) (t : Tag) :
    List.Subperm (b.insert i t).records (t :: b.records) := by
  have hput : ((Entries.insert i t b.held).map Prod.snd ++ b.strays).Perm
      (t :: ((Entries.erase i b.held).map Prod.snd ++ b.strays)) :=
    ((Entries.insert_perm_erase i t b.ascending).map Prod.snd).append_right b.strays
  have hrest := (b.remove i).records_perm.symm.subperm.trans (b.records_remove_subperm i)
  exact (b.insert i t).records_perm.subperm.trans
    (hput.subperm.trans ((List.subperm_cons t).2 hrest))

end BlockEntities

end Flattening
