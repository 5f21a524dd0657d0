import Flattening.Chunk.Basic
import Flattening.Proofs.Rule.Edits
import Mathlib.Algebra.Ring.Nat

/-!
# What a run keeps

A run is a sequence of steps, one for each cell of each group.  What every step keeps a whole
run keeps; a bound that a step raises by two a run raises by two for each of its cells.

* `stepReporting_cases`    a step performs its edit or changes nothing;
* `RunInvariant.apply`, `RunInvariant.runGroups`   from steps to runs;
* `runGroups_related`      two runs side by side, over the cells that wait and no others;
* `runGroups_events`       what a run reports.
-/

namespace Flattening

variable {σ : Type} [CellStore σ]

namespace Rule

theorem stepReporting_of_ok {r : Rule} {p : σ × Array Event} {i : ColumnCell} {e : Edit}
    (h : r.plan (CellStore.view p.1) i = .ok e) :
    r.stepReporting p i = (CellStore.perform p.1 i e, p.2) := by
  rw [stepReporting, act_eq_carryOut, h]
  rfl

theorem stepReporting_of_error {r : Rule} {p : σ × Array Event} {i : ColumnCell} {u : Unresolved}
    (h : r.plan (CellStore.view p.1) i = .error u) :
    r.stepReporting p i = (p.1, p.2.push (.unresolved r i u)) := by
  rw [stepReporting, act_eq_carryOut, h]
  rfl

theorem stepReporting_cases (r : Rule) (p : σ × Array Event) (i : ColumnCell) :
    (∃ e, r.plan (CellStore.view p.1) i = .ok e ∧
        r.stepReporting p i = (CellStore.perform p.1 i e, p.2)) ∨
      ∃ u, r.plan (CellStore.view p.1) i = .error u ∧
        r.stepReporting p i = (p.1, p.2.push (.unresolved r i u)) := by
  cases h : r.plan (CellStore.view p.1) i with
  | ok e => exact .inl ⟨e, rfl, stepReporting_of_ok h⟩
  | error u => exact .inr ⟨u, rfl, stepReporting_of_error h⟩

end Rule

/-- a bounded property of stores that every edit keeps when the bound is raised by two -/
structure RunInvariant (P : Nat → σ → Prop) : Prop where
  mono : ∀ (m n : Nat) (s : σ), m ≤ n → P m s → P n s
  perform : ∀ (n : Nat) (s : σ) (r : Rule) (i : ColumnCell) (e : Edit),
    r.plan (CellStore.view s) i = .ok e → P n s → P (n + 2) (CellStore.perform s i e)

namespace RunInvariant

variable {P : Nat → σ → Prop} {n : Nat} {s : σ}

theorem apply (inv : RunInvariant P) (r : Rule) (cells : List ColumnCell) (log : Array Event)
    (h : P n s) : P (n + 2 * cells.length) (r.apply cells s log).1 := by
  induction cells generalizing n s log with
  | nil => exact h
  | cons i cells ih =>
    have hn : n + 2 * (cells.length + 1) = n + 2 + 2 * cells.length := by omega
    rw [Rule.apply_cons, List.length_cons, hn]
    apply ih
    obtain ⟨e, he, hs⟩ | ⟨u, -, hs⟩ := r.stepReporting_cases (s, log) i
    · rw [hs]
      exact inv.perform n s r i e he h
    · rw [hs]
      exact inv.mono n (n + 2) s (Nat.le_add_right n 2) h

end RunInvariant

namespace Chunk

/-- number of cells that wait in groups -/
def waiting (gs : List Group) : Nat := (gs.map fun g => g.cells.length).sum

theorem waiting_cons (g : Group) (gs : List Group) :
    waiting (g :: gs) = g.cells.length + waiting gs := by
  rw [waiting, List.map_cons, List.sum_cons]
  rfl

theorem runGroup_of_rule {g : Group} {r : Rule} (h : Rule.ofBlock? g.block = some r)
    (p : σ × Array Event) : runGroup p g = r.apply g.columnCells p.1 p.2 := by
  rw [runGroup, h]

theorem runGroup_of_no_rule {g : Group} (h : Rule.ofBlock? g.block = none)
    (p : σ × Array Event) : runGroup p g = p := by
  rw [runGroup, h]

end Chunk

theorem Chunk.runGroups_of_no_rule {gs : List Chunk.Group}
    (h : ∀ g ∈ gs, Rule.ofBlock? g.block = none) (s : σ) (log : Array Event) :
    Chunk.runGroups gs s log = (s, log) := by
  induction gs with
  | nil => rfl
  | cons g gs ih =>
    rw [runGroups_cons, runGroup_of_no_rule (h g List.mem_cons_self)]
    exact ih fun g' hg' => h g' (List.mem_cons_of_mem g hg')

/-- **What every edit keeps, every run keeps.** -/
theorem RunInvariant.runGroups {P : Nat → σ → Prop} (inv : RunInvariant P)
    (gs : List Chunk.Group) {n : Nat} {s : σ} (log : Array Event) (h : P n s) :
    P (n + 2 * Chunk.waiting gs) (Chunk.runGroups gs s log).1 := by
  induction gs generalizing n s log with
  | nil => exact h
  | cons g gs ih =>
    rw [Chunk.runGroups_cons, Chunk.waiting_cons, Nat.mul_add, ← Nat.add_assoc]
    apply ih
    cases hr : Rule.ofBlock? g.block with
    | none =>
      rw [Chunk.runGroup_of_no_rule hr]
      exact inv.mono n _ s (Nat.le_add_right n _) h
    | some r =>
      have hl : g.columnCells.length = g.cells.length := List.length_map _
      rw [Chunk.runGroup_of_rule hr, ← hl]
      exact inv.apply r g.columnCells log h

/-! ## two runs side by side -/

section
variable {τ : Type} [CellStore τ]

theorem Rule.apply_related {R : σ × Array Event → τ × Array Event → Prop} {r : Rule}
    {cells : List ColumnCell}
    (step : ∀ i ∈ cells, ∀ p q, R p q → R (r.stepReporting p i) (r.stepReporting q i))
    {p : σ × Array Event} {q : τ × Array Event} (h : R p q) :
    R (r.apply cells p.1 p.2) (r.apply cells q.1 q.2) := by
  induction cells generalizing p q with
  | nil => exact h
  | cons i cells ih =>
    rw [apply_cons, apply_cons]
    exact ih (fun j hj => step j (List.mem_cons_of_mem i hj)) (step i List.mem_cons_self p q h)

/-- **What every step keeps between two stores, every run keeps.**  Of a step it is known which
block id its cell waits under. -/
theorem runGroups_related {R : σ × Array Event → τ × Array Event → Prop}
    {C : Nat → ColumnCell → Prop}
    (step : ∀ b r i p q, Rule.ofBlock? b = some r → C b i → R p q →
      R (r.stepReporting p i) (r.stepReporting q i))
    {gs : List Chunk.Group} (hgs : ∀ g ∈ gs, ∀ i ∈ g.columnCells, C g.block i)
    {p : σ × Array Event} {q : τ × Array Event} (h : R p q) :
    R (Chunk.runGroups gs p.1 p.2) (Chunk.runGroups gs q.1 q.2) := by
  induction gs generalizing p q with
  | nil => exact h
  | cons g gs ih =>
    have hg := hgs g List.mem_cons_self
    rw [Chunk.runGroups_cons, Chunk.runGroups_cons]
    refine ih (fun g' hg' => hgs g' (List.mem_cons_of_mem g hg')) ?_
    cases hr : Rule.ofBlock? g.block with
    | none =>
      rw [Chunk.runGroup_of_no_rule hr, Chunk.runGroup_of_no_rule hr]
      exact h
    | some r =>
      rw [Chunk.runGroup_of_rule hr, Chunk.runGroup_of_rule hr]
      exact Rule.apply_related (fun i hi p q => step g.block r i p q hr (hg i hi)) h

end

/-- **A run reports nothing but cells that were left as they are.** -/
theorem runGroups_events (gs : List Chunk.Group) (s : σ) (log : Array Event) :
    ∃ events, (Chunk.runGroups gs s log).2 = log ++ events ∧
      ∀ e ∈ events, ∃ r i u, e = Event.unresolved r i u := by
  refine runGroups_related (C := fun _ _ => True)
    (R := fun (p _ : σ × Array Event) => ∃ events, p.2 = log ++ events ∧
      ∀ e ∈ events, ∃ r i u, e = Event.unresolved r i u)
    ?_ (fun _ _ _ _ => trivial) (p := (s, log)) (q := (s, log))
    ⟨#[], Array.append_empty.symm, by simp⟩
  intro b r i p q _ _ hp
  obtain ⟨events, hlog, hevents⟩ := hp
  obtain ⟨e, -, hs⟩ | ⟨u, -, hs⟩ := r.stepReporting_cases p i
  · rw [hs]
    exact ⟨events, hlog, hevents⟩
  · rw [hs]
    refine ⟨events.push (.unresolved r i u), ?_, fun e he => ?_⟩
    · rw [hlog, Array.push_append]
    · rcases Array.mem_push.1 he with he | rfl
      · exact hevents e he
      · exact ⟨r, i, u, rfl⟩

end Flattening
