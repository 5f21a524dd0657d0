import Flattening.Proofs.Entries
import Flattening.Section.Basic
import Mathlib.Data.List.Induction

/-!
# What the pass over the cells of a section leaves

Decoding goes through the cells in their order, with a palette, a queue for each block id, the
cells left for later and the sides touched so far.  After any of the cells each of these is told by
the cells that were seen; that is what one more cell keeps, and so it holds of all of them.

* `LegacyLayers.pending`, `LegacyLayers.deferred`, `LegacyLayers.sides`   what is told by the
  layers alone;
* `Scanned.look`         one more cell;
* `Scanned.foldl`        any cells, one after the other;
* `DecodedCells.block_decode`, `DecodedCells.palette_decode`, `DecodedCells.waiting_decode`,
  `DecodedCells.deferred_decode`, `LegacyLayers.sides_scan`   the section as a whole.
-/

namespace Flattening

/-! ## what the layers tell -/

namespace LegacyLayers

variable (l : LegacyLayers)

/-- the cells of a block id, in ascending order -/
def cellsOf (block : Nat) : List Cell := Cell.all.filter fun c => l.block c == block

/-- the cells that wait for a rule, by ascending block id -/
def pending : List (Nat × List Cell) :=
  (Rule.ruledBlocks.map fun b => (b, l.cellsOf b)).filter fun g => !g.2.isEmpty

/-- the cells whose shape follows their neighbours -/
def sensitive : List Cell := Cell.all.filter fun c => Legacy.isSensitive (l.block c)

/-- the sides that sensitive cells touch -/
def sides : Sides := l.sensitive.foldl (fun s c => s ∪ Sides.ofEdge c.x c.z) ∅

/-- the sensitive cells that touch no side -/
def deferred : List Cell := l.sensitive.filter fun c => (Sides.ofEdge c.x c.z).isEmpty

theorem mem_cellsOf {b : Nat} {c : Cell} : c ∈ l.cellsOf b ↔ l.block c = b := by
  rw [cellsOf, List.mem_filter, beq_iff_eq]
  exact and_iff_right (Cell.mem_all c)

theorem pairwise_cellsOf (b : Nat) : (l.cellsOf b).Pairwise fun c e => c < e :=
  (List.pairwise_lt_finRange 4096).sublist List.filter_sublist

theorem mem_pending {b : Nat} {cells : List Cell} :
    (b, cells) ∈ l.pending ↔ b ∈ Rule.ruledBlocks ∧ l.cellsOf b = cells ∧ cells ≠ [] := by
  rw [pending, List.mem_filter]
  constructor
  · rintro ⟨hmem, hne⟩
    obtain ⟨b', hb', heq⟩ := List.mem_map.1 hmem
    obtain ⟨rfl, hcells⟩ := Prod.mk.inj heq
    refine ⟨hb', hcells, ?_⟩
    rintro rfl
    cases hne
  · rintro ⟨hb, rfl, hne⟩
    refine ⟨List.mem_map.2 ⟨b, hb, rfl⟩, ?_⟩
    rw [List.isEmpty_eq_false_iff.2 hne]
    rfl

/-- The groups come by ascending block id. -/
theorem pairwise_pending : l.pending.Pairwise fun p q => p.1 < q.1 := by
  have h : (Rule.ruledBlocks.map fun b => (b, l.cellsOf b)).Pairwise fun p q => p.1 < q.1 := by
    rw [List.pairwise_map]
    exact (by decide : Rule.ruledBlocks.Pairwise fun a b => a < b)
  exact h.sublist List.filter_sublist

/-! ## one cell -/

variable (c e : Cell)

theorem palette_queue (d : DecodedCells) : (l.queue c d).palette = d.palette := by
  unfold queue
  split
  · rfl
  · rfl

theorem block_queue (d : DecodedCells) : (l.queue c d).block e = d.block e := by
  unfold queue
  split
  · rfl
  · rfl

theorem deferred_queue (d : DecodedCells) : (l.queue c d).deferred = d.deferred := by
  unfold queue
  split
  · rfl
  · rfl

theorem palette_border (p : DecodedCells × Sides) : (l.border c p).1.palette = p.1.palette := by
  unfold border
  repeat' split
  all_goals rfl

theorem block_border (p : DecodedCells × Sides) : (l.border c p).1.block e = p.1.block e := by
  unfold border
  repeat' split
  all_goals rfl

theorem pending_border (p : DecodedCells × Sides) : (l.border c p).1.pending = p.1.pending := by
  unfold border
  repeat' split
  all_goals rfl

theorem deferred_border (p : DecodedCells × Sides) :
    (l.border c p).1.deferred.toList = p.1.deferred.toList ++
      [c].filter fun c => Legacy.isSensitive (l.block c) && (Sides.ofEdge c.x c.z).isEmpty := by
  unfold border
  split
  · rename_i hs
    split
    · rename_i he
      rw [List.filter_singleton, hs, he]
      exact Array.toList_push
    · rename_i he
      rw [List.filter_singleton, Bool.eq_false_iff.2 he, Bool.and_false]
      exact (List.append_nil _).symm
  · rename_i hs
    rw [List.filter_singleton, Bool.eq_false_iff.2 hs, Bool.false_and]
    exact (List.append_nil _).symm

/-- A side that is empty adds nothing. -/
theorem sides_border (p : DecodedCells × Sides) : (l.border c p).2 =
    ([c].filter fun c => Legacy.isSensitive (l.block c)).foldl
      (fun s c => s ∪ Sides.ofEdge c.x c.z) p.2 := by
  unfold border
  split
  · rename_i hs
    rw [List.filter_singleton, hs]
    split
    · rename_i he
      exact (Sides.union_of_isEmpty he p.2).symm
    · rfl
  · rename_i hs
    rw [List.filter_singleton, Bool.eq_false_iff.2 hs]
    rfl

end LegacyLayers

/-! ## any cells -/

/-- What is left after some cells were seen. -/
structure Scanned (l : LegacyLayers) (seen : List Cell) (p : DecodedCells × Sides) : Prop where
  palette_eq : p.1.palette = Palette.withAir.insertAll (seen.map l.state)
  block_eq : ∀ c ∈ seen, p.1.block c = l.state c
  ascending : Entries.Ascending p.1.pending
  queue_eq : ∀ b, ((Entries.get? b p.1.pending).getD #[]).toList =
    seen.filter fun c => l.block c == b && (Rule.ofBlock? b).isSome
  /-- no queue is empty -/
  queue_ne : ∀ b cells, Entries.get? b p.1.pending = some cells → cells ≠ #[]
  deferred_eq : p.1.deferred.toList = seen.filter fun c =>
    Legacy.isSensitive (l.block c) && (Sides.ofEdge c.x c.z).isEmpty
  sides_eq : p.2 = (seen.filter fun c => Legacy.isSensitive (l.block c)).foldl
    (fun s c => s ∪ Sides.ofEdge c.x c.z) ∅

namespace Scanned

variable {l : LegacyLayers} {seen : List Cell} {p : DecodedCells × Sides}

theorem start (l : LegacyLayers) : Scanned l [] (.start, ∅) where
  palette_eq := rfl
  block_eq := fun _ h => absurd h List.not_mem_nil
  ascending := Entries.ascending_nil
  queue_eq _ := rfl
  queue_ne := fun _ _ h => by cases h
  deferred_eq := rfl
  sides_eq := rfl

/-- A cell goes behind the cells of its block id, and the other queues stay. -/
theorem queue (h : Scanned l seen p) (c : Cell) (b : Nat) :
    ((Entries.get? b (l.queue c p.1).pending).getD #[]).toList =
      (seen ++ [c]).filter fun e => l.block e == b && (Rule.ofBlock? b).isSome := by
  rw [List.filter_append, ← h.queue_eq, List.filter_singleton]
  unfold LegacyLayers.queue
  by_cases hb : l.block c = b
  · rw [hb, beq_self_eq_true, Bool.true_and]
    split
    · rename_i hruled
      show ((Entries.get? b (Entries.insert b _ _)).getD #[]).toList = _
      rw [Entries.get?_insert_self, hruled]
      exact Array.toList_push
    · rename_i hruled
      rw [Bool.eq_false_iff.2 hruled]
      exact (List.append_nil _).symm
  · rw [beq_eq_false_iff_ne.2 hb, Bool.false_and]
    split
    · show ((Entries.get? b (Entries.insert _ _ _)).getD #[]).toList = _
      rw [Entries.get?_insert_ne (Ne.symm hb)]
      exact (List.append_nil _).symm
    · exact (List.append_nil _).symm

theorem queue_ne_empty (h : Scanned l seen p) (c : Cell) {b : Nat} {cells : Array Cell}
    (hb : Entries.get? b (l.queue c p.1).pending = some cells) : cells ≠ #[] := by
  unfold LegacyLayers.queue at hb
  split at hb
  · change Entries.get? b (Entries.insert _ _ _) = _ at hb
    by_cases hbc : b = l.block c
    · rw [hbc, Entries.get?_insert_self, Option.some.injEq] at hb
      rw [← hb]
      exact Array.push_ne_empty
    · rw [Entries.get?_insert_ne hbc] at hb
      exact h.queue_ne b cells hb
  · exact h.queue_ne b cells hb

/-- **One more cell.** -/
theorem look (h : Scanned l seen p) (c : Cell) : Scanned l (seen ++ [c]) (l.look p c) where
  palette_eq := by
    rw [List.map_append, List.map_singleton, Palette.insertAll_append_singleton, ← h.palette_eq]
    show ((l.border c (l.queue c p.1, p.2)).1.palette).insert _ = _
    rw [l.palette_border, l.palette_queue]
  block_eq e he := by
    by_cases hec : e = c
    · rw [hec]
      exact DecodedCells.block_set_self _ c _
    · have hmem : e ∈ seen := by
        rcases List.mem_append.1 he with he | he
        · exact he
        · exact absurd (List.mem_singleton.1 he) hec
      rw [← h.block_eq e hmem, ← l.block_queue c e p.1]
      exact (DecodedCells.block_set_ne hec _ _).trans (l.block_border c e _)
  ascending := by
    show Entries.Ascending (l.border c (l.queue c p.1, p.2)).1.pending
    rw [l.pending_border]
    unfold LegacyLayers.queue
    split
    · exact Entries.ascending_insert _ _ h.ascending
    · exact h.ascending
  queue_eq b := by
    rw [← h.queue c b]
    exact congrArg (fun m => ((Entries.get? b m).getD #[]).toList) (l.pending_border c _)
  queue_ne _ _ hb := h.queue_ne_empty c (l.pending_border c (l.queue c p.1, p.2) ▸ hb)
  deferred_eq := by
    rw [List.filter_append, ← h.deferred_eq, ← l.deferred_queue c p.1]
    exact l.deferred_border c _
  sides_eq := by
    rw [List.filter_append, List.foldl_append, ← h.sides_eq]
    exact l.sides_border c _

/-- There is a queue for each block id that has a rule and was seen. -/
theorem exists_queue_iff (h : Scanned l seen p) {b : Nat} {cells : List Cell} :
    (∃ a, Entries.get? b p.1.pending = some a ∧ a.toList = cells) ↔
      (Rule.ofBlock? b).isSome ∧ (seen.filter fun c => l.block c == b) = cells ∧ cells ≠ [] := by
  have hqueue := h.queue_eq b
  constructor
  · rintro ⟨a, ha, rfl⟩
    have hne : a.toList ≠ [] := mt Array.toList_eq_nil_iff.1 (h.queue_ne b a ha)
    rw [ha, Option.getD_some] at hqueue
    cases hruled : (Rule.ofBlock? b).isSome with
    | false =>
      simp only [hruled, Bool.and_false, List.filter_false] at hqueue
      exact absurd hqueue hne
    | true =>
      simp only [hruled, Bool.and_true] at hqueue
      exact ⟨rfl, hqueue.symm, hne⟩
  · rintro ⟨hruled, rfl, hne⟩
    simp only [hruled, Bool.and_true] at hqueue
    cases hget : Entries.get? b p.1.pending with
    | none =>
      rw [hget] at hqueue
      exact absurd hqueue.symm hne
    | some a =>
      rw [hget] at hqueue
      exact ⟨a, rfl, hqueue⟩

/-- **Any cells, one after the other.** -/
theorem foldl (l : LegacyLayers) (cells : List Cell) :
    Scanned l cells (cells.foldl l.look (.start, ∅)) := by
  induction cells using List.reverseRecOn with
  | nil => exact .start l
  | append_singleton cells c ih =>
    rw [List.foldl_append]
    exact ih.look c

end Scanned

/-! ## the section -/

theorem LegacyLayers.scanned (l : LegacyLayers) : Scanned l Cell.all l.scan := by
  unfold scan
  exact .foldl l Cell.all

theorem LegacyLayers.sides_scan (l : LegacyLayers) : l.scan.2 = l.sides := l.scanned.sides_eq

namespace DecodedCells

variable (l : LegacyLayers)

/-- air and then the states of the cells in turn -/
def decodedPalette : Palette := Palette.withAir.insertAll (Cell.all.map l.state)

theorem palette_decode : (decode l).palette = decodedPalette l := l.scanned.palette_eq

theorem block_decode (c : Cell) : (decode l).block c = l.state c :=
  l.scanned.block_eq c (Cell.mem_all c)

theorem deferred_decode : (decode l).deferred.toList = l.deferred := by
  rw [decode, l.scanned.deferred_eq, LegacyLayers.deferred, LegacyLayers.sensitive,
    List.filter_filter]
  simp only [Bool.and_comm]

/-- The groups that wait are the queues. -/
theorem mem_waiting_iff {d : DecodedCells} (h : Entries.Ascending d.pending) {b : Nat}
    {cells : List Cell} : (b, cells) ∈ d.waiting ↔
      ∃ a, Entries.get? b d.pending = some a ∧ a.toList = cells := by
  rw [waiting, List.mem_map]
  constructor
  · rintro ⟨⟨b', a⟩, hmem, heq⟩
    obtain ⟨rfl, rfl⟩ := Prod.mk.inj heq
    exact ⟨a, (Entries.get?_eq_some_iff (Entries.nodup_of_ascending h)).2 hmem, rfl⟩
  · rintro ⟨a, ha, rfl⟩
    exact ⟨(b, a), Entries.mem_of_get? ha, rfl⟩

theorem waiting_decode : (decode l).waiting = l.pending := by
  have hpending : Entries.Ascending (decode l).pending := l.scanned.ascending
  have hwaiting : Entries.Ascending (decode l).waiting := List.pairwise_map.2 hpending
  refine Entries.eq_of_perm hwaiting l.pairwise_pending ?_
  refine (List.perm_ext_iff_of_nodup (.of_map _ (Entries.nodup_of_ascending hwaiting))
    (.of_map _ (Entries.nodup_of_ascending l.pairwise_pending))).2 fun ⟨b, cells⟩ => ?_
  rw [mem_waiting_iff hpending, l.mem_pending, ← Rule.ofBlock?_isSome_iff]
  exact l.scanned.exists_queue_iff

end DecodedCells

end Flattening
