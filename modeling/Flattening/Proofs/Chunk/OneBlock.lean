import Flattening.Proofs.Chunk.Order
import Flattening.Proofs.Rule.Turns

/-!
# The run over one block id

What the rules make of a cell is settled by the cells of its own block id.  They wait in the groups
of that block id, one group for each section; taken together that is one list from below, and the
whole run does to them what the rule alone does to that list.

* `runGroups_eq_apply`       groups of one rule are run as one list;
* `Decoding.mem_waiting_iff`, `Decoding.pairwise_waiting`   the list has all cells of the block id,
  from below;
* `Decoding.settle_of_rule`  and the rule alone settles them;
* `Decoding.exists_turn`     what a cell finds when the rule comes to it.
-/

namespace Flattening

theorem Rule.apply_append {σ : Type} [CellStore σ] (r : Rule) (cells cells' : List ColumnCell)
    (s : σ) (log : Array Event) :
    r.apply (cells ++ cells') s log =
      r.apply cells' (r.apply cells s log).1 (r.apply cells s log).2 := List.foldl_append

namespace Chunk

/-- Groups of one rule are run as one list of cells. -/
theorem runGroups_eq_apply {σ : Type} [CellStore σ] {r : Rule} {gs : List Group}
    (h : ∀ g ∈ gs, Rule.ofBlock? g.block = some r) (s : σ) (log : Array Event) :
    runGroups gs s log = r.apply (gs.flatMap Group.columnCells) s log := by
  induction gs generalizing s log with
  | nil => rfl
  | cons g gs ih =>
    have hgs : ∀ g' ∈ gs, Rule.ofBlock? g'.block = some r := fun g' hg' =>
      h g' (List.mem_cons_of_mem g hg')
    rw [runGroups_cons, runGroup_of_rule (h g List.mem_cons_self), ih hgs, List.flatMap_cons,
      Rule.apply_append]

/-- the groups of a block id -/
def groupsOf (c : Chunk) (b : Nat) : List Group := c.groups.filter fun g => some g.block = some b

/-- the cells that wait under a block id, from below -/
def waitingUnder (c : Chunk) (b : Nat) : List ColumnCell :=
  (c.groupsOf b).flatMap Group.columnCells

theorem mem_groupsOf {c : Chunk} {b : Nat} {g : Group} :
    g ∈ c.groupsOf b ↔ g ∈ c.groups ∧ g.block = b := by
  rw [groupsOf, List.mem_filter, decide_eq_true_eq, Option.some.injEq]

namespace Decoding

variable {level : Tag} {log log' : Array Event} {c : Chunk} (d : Decoding level log log' c)

include d in
theorem pairwise_cells_of_group {g : Group} (hg : g ∈ c.groups) :
    g.cells.Pairwise fun a b => a < b := by
  obtain ⟨l, -, hp⟩ := d.exists_pending_of_group hg
  rw [← (l.mem_pending.1 hp).2.1]
  exact l.pairwise_cellsOf g.block

/-- The list has exactly the cells of the block id. -/
theorem mem_waiting_iff {b : Nat} (hb : b ∈ Rule.ruledBlocks) {i : ColumnCell} :
    i ∈ c.waitingUnder b ↔ d.id? i = some b := by
  constructor
  · intro hi
    obtain ⟨g, hg, hig⟩ := List.mem_flatMap.1 hi
    obtain ⟨hmem, rfl⟩ := mem_groupsOf.1 hg
    exact (d.id?_of_group hmem i hig).1
  · intro hi
    obtain ⟨g, hg, hgb, hig⟩ := d.exists_group hi hb
    exact List.mem_flatMap.2 ⟨g, mem_groupsOf.2 ⟨hg, hgb⟩, hig⟩

include d in
/-- Within a group and from group to group the cells are in ascending order. -/
theorem pairwise_waiting (b : Nat) : (c.waitingUnder b).Pairwise fun i j => i < j := by
  rw [waitingUnder, List.pairwise_flatMap]
  constructor
  · intro g hg
    rw [Group.columnCells, List.pairwise_map]
    refine (d.pairwise_cells_of_group (mem_groupsOf.1 hg).1).imp ?_
    intro x y hxy
    show g.y.val * 4096 + x.val < g.y.val * 4096 + y.val
    have hlt : x.val < y.val := hxy
    omega
  · refine (d.groups_pairwise.filter _).imp_of_mem ?_
    intro g h hg hh hlt i hi j hj
    obtain ⟨x, -, rfl⟩ := List.mem_map.1 hi
    obtain ⟨y, -, rfl⟩ := List.mem_map.1 hj
    have hgh : g.y.val < h.y.val :=
      hlt ((mem_groupsOf.1 hg).2.trans (mem_groupsOf.1 hh).2.symm)
    show g.y.val * 4096 + x.val < h.y.val * 4096 + y.val
    omega

/-- **A rule alone settles the cells of its block id.** -/
theorem settle_of_rule {b : Nat} {r : Rule} (hr : Rule.ofBlock? b = some r) {i : ColumnCell}
    (hi : d.id? i = some b) :
    (c.settle log').1.block i = (r.apply (c.waitingUnder b) (CellStore.view c) log').1.block i ∧
      (c.settle log').1.entities.get? i =
        (r.apply (c.waitingUnder b) (CellStore.view c) log').1.record? i := by
  have hall : ∀ g ∈ c.groupsOf b, Rule.ofBlock? g.block = some r := by
    intro g hg
    rw [(mem_groupsOf.1 hg).2, hr]
  have hsettle := d.settle_filter i
  rw [hi] at hsettle
  rw [waitingUnder, ← runGroups_eq_apply hall]
  exact hsettle

/-- **What a cell finds when its turn comes**, unless it is a door.  It is as it was decoded and has
the block entity that it had, the cells of its block id below it are settled, and all neighbours
are of the class that they were decoded to. -/
theorem exists_turn {b : Nat} {r : Rule} (hr : Rule.ofBlock? b = some r) (hdoor : r ≠ .door)
    {i : ColumnCell} (hi : d.id? i = some b) :
    ∃ w log₁, d.layout.Shows w ∧ w.block i = d.state i ∧ w.record? i = c.entities.get? i ∧
      (∀ j, j < i → d.id? j = some b → w.block j = (c.settle log').1.block j) ∧
      (c.settle log').1.block i = (r.stepReporting (w, log₁) i).1.block i := by
  have hruled : b ∈ Rule.ruledBlocks := (Rule.ofBlock?_isSome_iff b).1 (by rw [hr]; rfl)
  have hids : ∀ j ∈ c.waitingUnder b, d.layout.ids j = some b := fun j hj =>
    (d.mem_waiting_iff hruled).1 hj
  obtain ⟨done, rest, hcells, hturn, hstep⟩ := Rule.exists_atTurn hdoor (d.pairwise_waiting b)
    ((d.mem_waiting_iff hruled).2 hi) (CellStore.view c) log'
  refine ⟨(r.apply done (CellStore.view c) log').1, (r.apply done (CellStore.view c) log').2,
    ?_, ?_, hturn.record?_eq, ?_, ?_⟩
  · refine Layout.shows_apply d.shows_view hr (fun j hj => hids j ?_) log'
    rw [hcells]
    exact List.mem_append_left _ hj
  · rw [hturn.block_from i (Fin.le_refl i)]
    exact d.block_eq i
  · intro j hj hid
    rw [hturn.block_below j hj, (d.settle_of_rule hr hid).1]
  · rw [(d.settle_of_rule hr hi).1, hstep]

end Decoding

end Chunk

end Flattening
