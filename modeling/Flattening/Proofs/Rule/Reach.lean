import Flattening.Proofs.Rule.Records
import Flattening.Proofs.Rule.Refinement

/-!
# How far a rule reaches

A rule that gives up has done nothing before.  A run writes to the cells that have a turn, and one
for doors also to the cells right above them.  It takes no block entity but theirs, and puts none.

* `onTopOf_iff`                       the cell above is one up in the same column;
* `store_of_unresolved`               a turn that is reported leaves the store as it was;
* `block_apply_of_not_reaches`        cells out of reach keep their state;
* `WithinReach`, `FlatStore.run_withinReach`   all of it, for two tables.
-/

namespace Flattening

/-- The cell `j` is in the column of `i`, one up. -/
def ColumnCell.OnTopOf (j i : ColumnCell) : Prop :=
  j.val % 256 = i.val % 256 ∧ j.val / 256 = i.val / 256 + 1

theorem ColumnCell.onTopOf_iff {i j : ColumnCell} : j.OnTopOf i ↔ i.above? = some j := by
  rw [next?_up, OnTopOf]
  omega

namespace Rule

/-- the cells that a run may write -/
def Reaches (r : Rule) (cells : List ColumnCell) (j : ColumnCell) : Prop :=
  j ∈ cells ∨ (r = .door ∧ ∃ i ∈ cells, j.OnTopOf i)

variable {r : Rule} {i j : ColumnCell} {cells : List ColumnCell}

theorem reaches_cons (i : ColumnCell) (cells : List ColumnCell) (j : ColumnCell) :
    r.Reaches (i :: cells) j ↔ r.Reaches [i] j ∨ r.Reaches cells j := by
  simp only [Reaches, List.mem_cons, List.not_mem_nil, or_false, or_and_right, exists_or,
    exists_eq_left, and_or_left]
  exact or_or_or_comm

theorem not_reaches_of_ne_door (hr : r ≠ .door) (h : j ∉ cells) : ¬r.Reaches cells j :=
  fun hj => hj.elim h fun hdoor => hr hdoor.1

/-! ## one turn -/

section
variable {σ : Type} [CellStore σ]

/-- **What is reported has changed nothing.** -/
theorem store_of_unresolved {p : σ × Array Event} {u : Unresolved}
    (h : (r.stepReporting p i).2 = p.2.push (.unresolved r i u)) :
    (r.stepReporting p i).1 = p.1 := by
  obtain ⟨e, -, hs⟩ | ⟨u', -, hs⟩ := r.stepReporting_cases p i
  · rw [hs] at h
    have hsize : p.2.size = p.2.size + 1 := (congrArg Array.size h).trans (Array.size_push _)
    omega
  · rw [hs]

end

theorem block_stepReporting_of_not_reaches (h : ¬r.Reaches [i] j) (v : View)
    (log : Array Event) : (r.stepReporting (v, log) i).1.block j = v.block j := by
  obtain ⟨e, he, hs⟩ | ⟨u, -, hs⟩ := r.stepReporting_cases (v, log) i
  · rw [hs]
    apply View.block_perform_of_notMem
    rintro w hw rfl
    obtain hwi | ⟨hdoor, habove, -⟩ := mem_writes_of_plan he hw
    · exact h (.inl (List.mem_singleton.2 hwi))
    · exact h (.inr ⟨hdoor, i, List.mem_singleton_self i, ColumnCell.onTopOf_iff.2 habove⟩)
  · rw [hs]

/-! ## runs -/

/-- A cell out of reach stays as it is. -/
theorem block_apply_of_not_reaches (h : ¬r.Reaches cells j) (v : View) (log : Array Event) :
    (r.apply cells v log).1.block j = v.block j := by
  induction cells generalizing v log with
  | nil => rfl
  | cons i cells ih =>
    rw [reaches_cons, not_or] at h
    rw [apply_cons, ih h.2]
    exact block_stepReporting_of_not_reaches h.1 v log

/-- What a run may do to a store: it writes to cells in its reach, and takes block entities out of
cells that have a turn.  A rule that looks at a neighbour takes none. -/
structure WithinReach {σ : Type} [CellStore σ] (r : Rule) (cells : List ColumnCell)
    (s t : σ) : Prop where
  block_eq : ∀ j, ¬r.Reaches cells j → CellStore.block t j = CellStore.block s j
  record?_eq : ∀ j, j ∉ cells → CellStore.record? t j = CellStore.record? s j
  record?_cases : ∀ j,
    CellStore.record? t j = CellStore.record? s j ∨ CellStore.record? t j = none
  records_kept : r ∈ [.snowyGround, .door, .pumpkin, .doublePlant] →
    ∀ j, CellStore.record? t j = CellStore.record? s j

theorem withinReach_apply (r : Rule) (cells : List ColumnCell) (v : View) (log : Array Event) :
    r.WithinReach cells v (r.apply cells v log).1 where
  block_eq _ h := block_apply_of_not_reaches h v log
  record?_eq j h := (record?_apply r cells v log j).trans (if_neg fun hj => h hj.2)
  record?_cases j := by
    rw [show CellStore.record? (r.apply cells v log).1 j = _ from record?_apply r cells v log j]
    split
    · exact .inr rfl
    · exact .inl rfl
  records_kept h j := by
    have hr : ∀ r' ∈ [Rule.snowyGround, .door, .pumpkin, .doublePlant],
        ¬r'.isRecordDriven = true := by decide
    exact (record?_apply r cells v log j).trans (if_neg fun hj => hr r h hj.1)

end Rule

/-! ## two tables -/

namespace FlatStore

/-- **A rule that gives up changes nothing, and no rule reaches further than it may.** -/
theorem run_withinReach (r : Rule) (cells : List ColumnCell) (s : FlatStore) (log : Array Event) :
    (∀ i u, (r.stepReporting (s, log) i).2 = log.push (.unresolved r i u) →
        (r.stepReporting (s, log) i).1 = s) ∧
      r.WithinReach cells s (r.apply cells s log).1 := by
  refine ⟨fun i u h => Rule.store_of_unresolved (p := (s, log)) h, ?_⟩
  -- what is within reach is seen by the view alone
  have hview := Rule.withinReach_apply r cells (CellStore.view s) log
  rw [← view_apply r cells s log] at hview
  exact ⟨hview.block_eq, hview.record?_eq, hview.record?_cases, hview.records_kept⟩

/-- the lower half of a door under a stone -/
def shutIn : FlatStore :=
  ⟨[(0, .ofPairs "minecraft:oak_door" [("half", "lower")]), (256, .plain "minecraft:stone")],
    [(0, .compound [])], false⟩

theorem run_withinReach_shutIn :
    (Rule.door.stepReporting (shutIn, #[]) 0).2 =
        #[Event.unresolved .door 0 .noUpperHalf] ∧
      (Rule.door.stepReporting (shutIn, #[]) 0).1 = shutIn ∧
      Rule.door.WithinReach [0] shutIn (Rule.door.apply [0] shutIn #[]).1 := by
  have hlog : (Rule.door.stepReporting (shutIn, #[]) 0).2 =
      #[Event.unresolved .door 0 .noUpperHalf] := by decide +kernel
  obtain ⟨hstep, hrun⟩ := run_withinReach .door [0] shutIn #[]
  exact ⟨hlog, hstep 0 .noUpperHalf hlog, hrun⟩

end FlatStore

end Flattening
