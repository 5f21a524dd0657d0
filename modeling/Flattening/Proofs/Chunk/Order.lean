import Flattening.Proofs.Chunk.Layout
import Flattening.Proofs.Chunk.ReadBack
import Flattening.Proofs.Chunk.Taken

/-!
# The order of the groups does not matter

Groups of different block ids may run in any order, as long as those of one block id keep
theirs.

* `filter_eq_of_perm`     reordered groups are the same once one block id is picked out;
* `agree_of_reordered`    so the views after two such runs are the same;
* `Decoding.settle_filter`   a cell is settled by the groups of its own block id;
* `runGroups_reordered`   and so are states, block entities and their count.
-/

namespace Flattening.Chunk

/-- Groups of one block id run from the lowest section up. -/
def UpwardByBlock (gs : List Group) : Prop :=
  gs.Pairwise fun g h => g.block = h.block → g.y < h.y

theorem filter_eq_of_perm {gs hs : List Group} (hp : gs.Perm hs) (hg : UpwardByBlock gs)
    (hh : UpwardByBlock hs) (k : Option Nat) :
    (gs.filter fun g => some g.block = k) = hs.filter fun g => some g.block = k := by
  have hpick : ∀ {l : List Group}, UpwardByBlock l →
      (l.filter fun g => some g.block = k).Pairwise fun g h => g.y < h.y := by
    intro l hl
    refine (hl.filter _).imp_of_mem ?_
    intro g h hgm hhm hlt
    have h1 : some g.block = k := by simpa using (List.mem_filter.1 hgm).2
    have h2 : some h.block = k := by simpa using (List.mem_filter.1 hhm).2
    exact hlt (Option.some.inj (h1.trans h2.symm))
  refine List.Perm.eq_of_pairwise ?_ (hpick hg) (hpick hh) (hp.filter _)
  intro g h _ _ hlt hgt
  exact absurd hlt (Fin.lt_asymm hgt)

variable {level : Tag} {log log' : Array Event} {c : Chunk}

/-- On the cells of one block id both runs do what the groups of that block id do alone, and
those come in the same order. -/
theorem agree_of_reordered (d : Decoding level log log' c) {gs : List Group}
    (hp : gs.Perm c.groups) (ho : UpwardByBlock gs) (i : ColumnCell) :
    (runGroups gs (CellStore.view c) log').1.block i =
        (runGroups c.groups (CellStore.view c) log').1.block i ∧
      (runGroups gs (CellStore.view c) log').1.record? i =
        (runGroups c.groups (CellStore.view c) log').1.record? i := by
  have h := Agree.refl d.shows_view (d.id? i)
  have hgroups : ∀ g ∈ c.groups, ∀ j ∈ g.columnCells, d.layout.ids j = some g.block :=
    fun g hg j hj => (d.id?_of_group hg j hj).1
  have hgs : ∀ g ∈ gs, ∀ j ∈ g.columnCells, d.layout.ids j = some g.block := fun g hg =>
    hgroups g (hp.mem_iff.1 hg)
  have h1 := h.runGroups_filter hgs log' log'
  have h2 := h.runGroups_filter hgroups log' log'
  rw [filter_eq_of_perm hp ho d.groups_pairwise] at h1
  exact ⟨(h1.block i rfl).trans (h2.block i rfl).symm,
    (h1.record i rfl).trans (h2.record i rfl).symm⟩

theorem view_run (d : Decoding level log log' c) {gs : List Group} (hp : gs.Perm c.groups) :
    CellStore.view (runGroups gs c.clearPending log').1 =
      (runGroups gs (CellStore.view c) log').1 := by
  have hl : ∀ g ∈ gs, ∀ i ∈ g.columnCells, c.clearPending.Lands i := fun g hg =>
    d.lands_of_group (hp.mem_iff.1 hg)
  have hv := showsWrites.view_runGroups hl log'
  rw [Decoding.view_clearPending] at hv
  exact congrArg Prod.fst hv

/-- Of all groups those of the block id of a cell settle it. -/
theorem Decoding.settle_filter (d : Decoding level log log' c) (i : ColumnCell) :
    (c.settle log').1.block i =
        (runGroups (c.groups.filter fun g => some g.block = d.id? i)
          (CellStore.view c) log').1.block i ∧
      (c.settle log').1.entities.get? i =
        (runGroups (c.groups.filter fun g => some g.block = d.id? i)
          (CellStore.view c) log').1.record? i := by
  have hgroups : ∀ g ∈ c.groups, ∀ j ∈ g.columnCells, d.layout.ids j = some g.block :=
    fun g hg j hj => (d.id?_of_group hg j hj).1
  have hrun := (Agree.refl d.shows_view (d.id? i)).runGroups_filter hgroups log' log'
  have hview := view_run d (List.Perm.refl c.groups)
  have hblock : (c.settle log').1.block i =
      (runGroups c.groups (CellStore.view c) log').1.block i :=
    congrFun (congrArg View.block hview) i
  have hrecord : (c.settle log').1.entities.get? i =
      (runGroups c.groups (CellStore.view c) log').1.record? i :=
    congrFun (congrArg View.record? hview) i
  exact ⟨hblock.trans (hrun.block i rfl), hrecord.trans (hrun.record i rfl)⟩

/-- **Groups of different block ids do not depend on each other.**  Whatever the order of the
groups, as long as those of one block id run upward, each cell ends with the same state, the
same block entities are left, and as many were taken. -/
theorem runGroups_reordered (h : decode level log = .ok c log') {gs : List Group}
    (hp : gs.Perm c.groups) (ho : UpwardByBlock gs) :
    (∀ i, (runGroups gs c.clearPending log').1.block i = (c.settle log').1.block i) ∧
      (runGroups gs c.clearPending log').1.entities = (c.settle log').1.entities ∧
      (runGroups gs c.clearPending log').1.consumed = (c.settle log').1.consumed := by
  obtain ⟨d⟩ := decode_eq_ok_iff.1 h
  have hgs := view_run d hp
  have hgroups := view_run d (List.Perm.refl c.groups)
  have inv : RunInvariant fun (_ : Nat) (c' : Chunk) => Taken c.clearPending c' :=
    runInvariant_taken
  have htaken := inv.runGroups gs (n := 0) log' ⟨rfl, rfl, rfl⟩
  have htaken' := inv.runGroups c.groups (n := 0) log' ⟨rfl, rfl, rfl⟩
  constructor
  · intro i
    have hi := (agree_of_reordered d hp ho i).1
    rw [← hgs, ← hgroups] at hi
    exact hi
  · refine Taken.unique htaken' htaken fun i => ?_
    have hi := (agree_of_reordered d hp ho i).2
    rw [← hgs, ← hgroups] at hi
    exact hi

/-- The groups of a single section have pairwise different block ids, so they may also run
backwards. -/
theorem upwardByBlock_reverse {y : Fin 16} (hy : ∀ g ∈ c.groups, g.y = y)
    (h : UpwardByBlock c.groups) : UpwardByBlock c.groups.reverse := by
  refine List.pairwise_reverse.2 (h.imp_of_mem ?_)
  intro g k hg hk hlt heq
  have h' := hlt heq.symm
  rw [hy g hg, hy k hk] at h'
  exact absurd h' (Fin.lt_irrefl y)

theorem runGroups_reordered_halved :
    ∃ c log', decode (levelOf [sectionOf 3 halvedIds]) #[] = .ok c log' ∧
      c.groups.reverse.Perm c.groups ∧ UpwardByBlock c.groups.reverse ∧
      (∀ i, (runGroups c.groups.reverse c.clearPending log').1.block i =
        (c.settle log').1.block i) ∧
      (runGroups c.groups.reverse c.clearPending log').1.entities =
        (c.settle log').1.entities ∧
      (runGroups c.groups.reverse c.clearPending log').1.consumed =
        (c.settle log').1.consumed := by
  obtain ⟨c, log', hc⟩ := exists_decode_levelOf (ofTag?_of_mem_sectionOf 3 halvedIds) #[]
  obtain ⟨d⟩ := decode_eq_ok_iff.1 hc
  have htags : d.tags = [sectionOf 3 halvedIds] := (Except.ok.inj d.tags_eq).symm
  have hy : ∀ g ∈ c.groups, g.y = 3 := by
    intro g hg
    obtain ⟨l, hl, -⟩ := d.exists_pending_of_group hg
    obtain ⟨s, hs, -⟩ := Option.bind_eq_some_iff.1 hl
    obtain ⟨t, ⟨before, after, ht, hty, -⟩, -⟩ := (get_placed d.placed_eq).1 hs
    have hmem : t ∈ d.tags := by
      rw [ht]
      exact List.mem_append_right before List.mem_cons_self
    rw [htags, List.mem_singleton] at hmem
    rw [hmem, y?_sectionOf, Except.ok.injEq] at hty
    exact hty.symm
  have hp := List.reverse_perm c.groups
  have ho := upwardByBlock_reverse hy d.groups_pairwise
  exact ⟨c, log', hc, hp, ho, runGroups_reordered hc hp ho⟩

end Flattening.Chunk
