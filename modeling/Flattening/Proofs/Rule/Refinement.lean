import Flattening.Proofs.Entries
import Flattening.Proofs.Rule.Run
import Flattening.Proofs.Rule.Views

/-!
# Stores that do what their views do

A store may ignore states written to cells that it does not have.  It shows its writes when a
state written to a cell that it has lands there, and a cell that is not air is one that it has.
All cells that wait are cells of the store, and so is the upper half of a door, since it is not
air.  So every state written lands, and a run over the store is the run over its view.

* `ShowsWrites`                  what is asked of a store, with the cells that it has;
* `ShowsWrites.lands_of_write`   no state written by a rule is lost;
* `ShowsWrites.view_runGroups`   a run over the store is the run over its view;
* `Traced`                       a store that lists the states written to it;
* `ShowsWrites.lands_of_traced`  all of them land;
* `FlatStore.showsWrites`        in two tables every state lands.
-/

namespace Flattening

variable {σ : Type} [CellStore σ]

open CellStore (view)

/-- What is written to a cell that lands is there, what is taken is gone, and nothing else
changes, least of all which cells land. -/
structure ShowsWrites (lands : σ → ColumnCell → Prop) : Prop where
  block_self : ∀ (s : σ) i b, lands s i → CellStore.block (CellStore.setBlock s i b) i = b
  block_ne : ∀ (s : σ) i b j, j ≠ i →
    CellStore.block (CellStore.setBlock s i b) j = CellStore.block s j
  record?_setBlock : ∀ (s : σ) i b,
    CellStore.record? (CellStore.setBlock s i b) = CellStore.record? s
  fromAlpha_setBlock : ∀ (s : σ) i b,
    CellStore.fromAlpha (CellStore.setBlock s i b) = CellStore.fromAlpha s
  record?_self : ∀ (s : σ) i, CellStore.record? (CellStore.consume s i) i = none
  record?_ne : ∀ (s : σ) i j, j ≠ i →
    CellStore.record? (CellStore.consume s i) j = CellStore.record? s j
  fromAlpha_consume : ∀ (s : σ) i,
    CellStore.fromAlpha (CellStore.consume s i) = CellStore.fromAlpha s
  lands_setBlock : ∀ (s : σ) i b j, lands (CellStore.setBlock s i b) j ↔ lands s j
  lands_consume : ∀ (s : σ) i j, lands (CellStore.consume s i) j ↔ lands s j
  lands_of_ne_air : ∀ (s : σ) i, CellStore.block s i ≠ .air → lands s i

theorem CellStore.perform_of_not_consumes {e : Edit} (h : e.consumes = false) (s : σ)
    (i : ColumnCell) :
    perform s i e = e.writes.foldl (fun s w => setBlock s w.1 w.2) s := by
  rw [perform, h]
  rfl

theorem CellStore.perform_of_consumes {e : Edit} (h : e.consumes = true) (s : σ)
    (i : ColumnCell) :
    perform s i e = e.writes.foldl (fun s w => setBlock s w.1 w.2) (consume s i) := by
  rw [perform, h]
  rfl

namespace ShowsWrites

variable {lands : σ → ColumnCell → Prop} {s : σ} {r : Rule} {i : ColumnCell} {e : Edit}

/-! ## one step -/

theorem view_setBlock (h : ShowsWrites lands) (hi : lands s i) (b : BlockState) :
    view (CellStore.setBlock s i b) = (view s).write (i, b) := by
  have hb : CellStore.block (CellStore.setBlock s i b) =
      Function.update (CellStore.block s) i b := by
    funext j
    by_cases hj : j = i
    · rw [hj, Function.update_self, h.block_self s i b hi]
    · rw [Function.update_of_ne hj, h.block_ne s i b j hj]
  rw [view, hb, h.record?_setBlock, h.fromAlpha_setBlock]
  rfl

theorem view_consume (h : ShowsWrites lands) (s : σ) (i : ColumnCell) :
    view (CellStore.consume s i) = (view s).take i true := by
  have hr : CellStore.record? (CellStore.consume s i) =
      Function.update (CellStore.record? s) i none := by
    funext j
    by_cases hj : j = i
    · rw [hj, Function.update_self, h.record?_self]
    · rw [Function.update_of_ne hj, h.record?_ne s i j hj]
  rw [view, hr, CellStore.block_consume, h.fromAlpha_consume]
  rfl

theorem lands_foldl (h : ShowsWrites lands) (l : List (ColumnCell × BlockState)) (s : σ)
    (j : ColumnCell) :
    lands (l.foldl (fun s w => CellStore.setBlock s w.1 w.2) s) j ↔ lands s j := by
  induction l generalizing s with
  | nil => exact Iff.rfl
  | cons w l ih => exact (ih _).trans (h.lands_setBlock s w.1 w.2 j)

theorem lands_perform (h : ShowsWrites lands) (s : σ) (i : ColumnCell) (e : Edit)
    (j : ColumnCell) : lands (CellStore.perform s i e) j ↔ lands s j := by
  cases hc : e.consumes with
  | false =>
    rw [CellStore.perform_of_not_consumes hc]
    exact h.lands_foldl e.writes s j
  | true =>
    rw [CellStore.perform_of_consumes hc]
    exact (h.lands_foldl e.writes _ j).trans (h.lands_consume s i j)

theorem view_foldl (h : ShowsWrites lands) {l : List (ColumnCell × BlockState)}
    (hl : ∀ w ∈ l, lands s w.1) :
    view (l.foldl (fun s w => CellStore.setBlock s w.1 w.2) s) = View.writeAll l (view s) := by
  induction l generalizing s with
  | nil => rfl
  | cons w l ih =>
    have hw := h.view_setBlock (hl w List.mem_cons_self) w.2
    have hrest : ∀ w' ∈ l, lands (CellStore.setBlock s w.1 w.2) w'.1 := fun w' hw' =>
      (h.lands_setBlock s w.1 w.2 w'.1).2 (hl w' (List.mem_cons_of_mem w hw'))
    rw [List.foldl_cons, ih hrest, hw]
    rfl

/-- An edit whose states land does to the view what it does to a view. -/
theorem view_perform (h : ShowsWrites lands) (hw : ∀ w ∈ e.writes, lands s w.1)
    (i : ColumnCell) :
    view (CellStore.perform s i e) = CellStore.perform (view s) i e := by
  rw [View.perform_eq]
  cases hc : e.consumes with
  | false =>
    rw [CellStore.perform_of_not_consumes hc, h.view_foldl hw]
    rfl
  | true =>
    have hl : ∀ w ∈ e.writes, lands (CellStore.consume s i) w.1 := fun w hw' =>
      (h.lands_consume s i w.1).2 (hw w hw')
    rw [CellStore.perform_of_consumes hc, h.view_foldl hl, h.view_consume]

/-- **No state written is lost**: the cell of a step lands, and so does the upper half of a
door. -/
theorem lands_of_write (h : ShowsWrites lands) (he : r.plan (view s) i = .ok e)
    (hi : lands s i) : ∀ w ∈ e.writes, lands s w.1 := by
  intro w hw
  obtain hwi | ⟨-, -, hdoor, hn⟩ := Rule.mem_writes_of_plan he hw
  · rw [hwi]
    exact hi
  · -- the other cell is the upper half of a door: its name ends like one, and air's does not
    refine h.lands_of_ne_air s w.1 fun hair => ?_
    have hname : ((view s).block i).name = BlockState.airName := by
      rw [← hn]
      exact congrArg BlockState.name hair
    rw [BlockState.nameEndsWith, hname] at hdoor
    exact absurd hdoor (by decide +kernel)

theorem view_stepReporting (h : ShowsWrites lands) (hi : lands s i) (r : Rule)
    (log : Array Event) :
    Prod.map view id (r.stepReporting (s, log) i) = r.stepReporting (view s, log) i := by
  cases he : r.plan (view s) i with
  | ok e =>
    have hv := h.view_perform (h.lands_of_write he hi) i
    have hview : r.stepReporting (view s, log) i = (CellStore.perform (view s) i e, log) :=
      Rule.stepReporting_of_ok he
    rw [Rule.stepReporting_of_ok he, hview, ← hv]
    rfl
  | error u =>
    have hview : r.stepReporting (view s, log) i =
        (view s, log.push (.unresolved r i u)) := Rule.stepReporting_of_error he
    rw [Rule.stepReporting_of_error he, hview]
    rfl

theorem lands_stepReporting (h : ShowsWrites lands) (r : Rule) (p : σ × Array Event)
    (i j : ColumnCell) : lands (r.stepReporting p i).1 j ↔ lands p.1 j := by
  obtain ⟨e, -, hs⟩ | ⟨u, -, hs⟩ := r.stepReporting_cases p i
  · rw [hs]
    exact h.lands_perform p.1 i e j
  · rw [hs]

/-! ## runs -/

/-- A run over a store that started with `s`, and a run over its view.  Which cells land never
changes, so it can be asked of the store at the start. -/
structure Shown (lands : σ → ColumnCell → Prop) (s : σ) (p : σ × Array Event)
    (q : View × Array Event) : Prop where
  view_eq : Prod.map view id p = q
  lands_iff : ∀ j, lands p.1 j ↔ lands s j

theorem Shown.refl (s : σ) (log : Array Event) : Shown lands s (s, log) (view s, log) :=
  ⟨rfl, fun _ => Iff.rfl⟩

theorem Shown.step {p : σ × Array Event} {q : View × Array Event} (hpq : Shown lands s p q)
    (h : ShowsWrites lands) (hi : lands s i) (r : Rule) :
    Shown lands s (r.stepReporting p i) (r.stepReporting q i) := by
  obtain ⟨rfl, hl⟩ := hpq
  exact ⟨h.view_stepReporting ((hl i).2 hi) r p.2,
    fun j => (h.lands_stepReporting r p i j).trans (hl j)⟩

theorem view_apply (h : ShowsWrites lands) {cells : List ColumnCell}
    (hcells : ∀ i ∈ cells, lands s i) (r : Rule) (log : Array Event) :
    Prod.map view id (r.apply cells s log) = r.apply cells (view s) log := by
  have hrun := Rule.apply_related (R := Shown lands s) (r := r)
    (fun i hi _ _ hpq => hpq.step h (hcells i hi) r) (Shown.refl s log)
  exact hrun.view_eq

/-- **A run over a store is the run over its view**, when the cells that wait land. -/
theorem view_runGroups (h : ShowsWrites lands) {gs : List Chunk.Group}
    (hgs : ∀ g ∈ gs, ∀ i ∈ g.columnCells, lands s i) (log : Array Event) :
    Prod.map view id (Chunk.runGroups gs s log) = Chunk.runGroups gs (view s) log := by
  have hrun := runGroups_related (C := fun _ i => lands s i) (R := Shown lands s)
    (fun _ r _ _ _ _ hi hpq => hpq.step h hi r) hgs (Shown.refl s log)
  exact hrun.view_eq

end ShowsWrites

/-! ## the states written to a store -/

/-- a store that lists the states written to it, the last one at the end -/
structure Traced (σ : Type) where
  store : σ
  writes : List (ColumnCell × BlockState)

instance : CellStore (Traced σ) where
  block s := CellStore.block s.store
  record? s := CellStore.record? s.store
  fromAlpha s := CellStore.fromAlpha s.store
  setBlock s i b := ⟨CellStore.setBlock s.store i b, s.writes ++ [(i, b)]⟩
  consume s i := ⟨CellStore.consume s.store i, s.writes⟩
  block_consume s i := CellStore.block_consume s.store i

namespace Traced

theorem foldl_setBlock (l : List (ColumnCell × BlockState)) (s : Traced σ) :
    l.foldl (fun s w => CellStore.setBlock s w.1 w.2) s =
      ⟨l.foldl (fun s w => CellStore.setBlock s w.1 w.2) s.store, s.writes ++ l⟩ := by
  induction l generalizing s with
  | nil =>
    rw [List.append_nil]
    rfl
  | cons w l ih =>
    rw [List.foldl_cons, ih]
    show Traced.mk _ ((s.writes ++ [w]) ++ l) = Traced.mk _ (s.writes ++ w :: l)
    rw [List.append_assoc]
    rfl

theorem perform_eq (s : Traced σ) (i : ColumnCell) (e : Edit) :
    CellStore.perform s i e = ⟨CellStore.perform s.store i e, s.writes ++ e.writes⟩ := by
  cases hc : e.consumes with
  | false =>
    rw [CellStore.perform_of_not_consumes hc, CellStore.perform_of_not_consumes hc, foldl_setBlock]
  | true =>
    rw [CellStore.perform_of_consumes hc, CellStore.perform_of_consumes hc, foldl_setBlock]
    rfl

end Traced

/-- **Keeping the list changes nothing, and every state in it landed.** -/
theorem ShowsWrites.lands_of_traced {lands : σ → ColumnCell → Prop} (h : ShowsWrites lands)
    {s : σ} {gs : List Chunk.Group} (hgs : ∀ g ∈ gs, ∀ i ∈ g.columnCells, lands s i)
    (log : Array Event) :
    (Chunk.runGroups gs (⟨s, []⟩ : Traced σ) log).1.store = (Chunk.runGroups gs s log).1 ∧
      ∀ w ∈ (Chunk.runGroups gs (⟨s, []⟩ : Traced σ) log).1.writes, lands s w.1 := by
  have hrun := runGroups_related (C := fun _ i => lands s i)
    (R := fun (p : Traced σ × Array Event) (q : σ × Array Event) =>
      (p.1.store, p.2) = q ∧ (∀ j, lands p.1.store j ↔ lands s j) ∧
        ∀ w ∈ p.1.writes, lands s w.1)
    (fun b r i p q _ hi hpq => by
      obtain ⟨⟨t, writes⟩, log'⟩ := p
      obtain ⟨rfl, hl, hw⟩ := hpq
      cases he : r.plan (view t) i with
      | ok e =>
        have he' : r.plan (view (⟨t, writes⟩ : Traced σ)) i = .ok e := he
        rw [Rule.stepReporting_of_ok he, Rule.stepReporting_of_ok he', Traced.perform_eq]
        refine ⟨rfl, fun j => (h.lands_perform t i e j).trans (hl j), fun w hwm => ?_⟩
        rcases List.mem_append.1 hwm with hwm | hwm
        · exact hw w hwm
        · exact (hl w.1).1 (h.lands_of_write he ((hl i).2 hi) w hwm)
      | error u =>
        have he' : r.plan (view (⟨t, writes⟩ : Traced σ)) i = .error u := he
        rw [Rule.stepReporting_of_error he, Rule.stepReporting_of_error he']
        exact ⟨rfl, hl, hw⟩)
    hgs (p := (⟨s, []⟩, log)) (q := (s, log)) ⟨rfl, fun _ => Iff.rfl, by simp⟩
  obtain ⟨hstore, -, hw⟩ := hrun
  exact ⟨congrArg Prod.fst hstore, hw⟩

/-! ## a store of two tables -/

namespace FlatStore

theorem block_eq (s : FlatStore) (i : ColumnCell) :
    CellStore.block s i = (Entries.get? i s.blocks).getD .air := rfl

theorem record?_eq (s : FlatStore) (i : ColumnCell) :
    CellStore.record? s i = Entries.get? i s.records := rfl

/-- Tables do what their view does, wherever a state is written. -/
theorem showsWrites : ShowsWrites fun (_ : FlatStore) (_ : ColumnCell) => True where
  block_self := by
    intro s i b _
    show (Entries.get? i (Entries.insert i b s.blocks)).getD .air = b
    rw [Entries.get?_insert_self]
    rfl
  block_ne := by
    intro s i b j hj
    show (Entries.get? j (Entries.insert i b s.blocks)).getD .air = _
    rw [Entries.get?_insert_ne hj]
    rfl
  record?_setBlock := fun _ _ _ => rfl
  fromAlpha_setBlock := fun _ _ _ => rfl
  record?_self := fun s i => Entries.get?_erase_self i s.records
  record?_ne := fun s _ _ hj => Entries.get?_erase_ne hj s.records
  fromAlpha_consume := fun _ _ => rfl
  lands_setBlock := fun _ _ _ _ => Iff.rfl
  lands_consume := fun _ _ _ => Iff.rfl
  lands_of_ne_air := fun _ _ _ => trivial

theorem view_apply (r : Rule) (cells : List ColumnCell) (s : FlatStore) (log : Array Event) :
    view (r.apply cells s log).1 = (r.apply cells (view s) log).1 :=
  congrArg Prod.fst (showsWrites.view_apply (fun _ _ => trivial) r log)

end FlatStore

end Flattening
