import Flattening.Rule.Store
import Mathlib.Data.List.Forall2
import Mathlib.Logic.Function.Basic

/-!
# Views as stores

A view is the plainest store: every state written lands, and nothing else is kept.  What an
edit does to a view is said here cell by cell.

* `block_perform_of_notMem`, `record?_perform_ne`   an edit reaches no other cell;
* `block_perform_congr`, `record?_perform_congr`    and does the same to equal cells;
* `block_perform_related`   related edits keep two views related.
-/

namespace Flattening

instance : CellStore View where
  block v := v.block
  record? v := v.record?
  fromAlpha v := v.fromAlpha
  setBlock v i b := { v with block := Function.update v.block i b }
  consume v i := { v with record? := Function.update v.record? i none }
  block_consume _ _ := rfl

namespace View

variable {v w : View} {i j : ColumnCell}

def write (v : View) (w : ColumnCell × BlockState) : View :=
  { v with block := Function.update v.block w.1 w.2 }

theorem block_write_self (v : View) (w : ColumnCell × BlockState) :
    (v.write w).block w.1 = w.2 := by
  show Function.update v.block w.1 w.2 w.1 = w.2
  rw [Function.update_self]

theorem block_write_ne {w : ColumnCell × BlockState} (h : j ≠ w.1) (v : View) :
    (v.write w).block j = v.block j := by
  show Function.update v.block w.1 w.2 j = v.block j
  rw [Function.update_of_ne h]

/-- states written one after the other -/
def writeAll (l : List (ColumnCell × BlockState)) (v : View) : View := l.foldl write v

def take (v : View) (i : ColumnCell) (taken : Bool) : View :=
  if taken then { v with record? := Function.update v.record? i none } else v

theorem perform_eq (v : View) (i : ColumnCell) (e : Edit) :
    CellStore.perform v i e = writeAll e.writes (v.take i e.consumes) := rfl

theorem block_take (v : View) (i : ColumnCell) (taken : Bool) :
    (v.take i taken).block = v.block := by
  cases taken <;> rfl

theorem fromAlpha_take (v : View) (i : ColumnCell) (taken : Bool) :
    (v.take i taken).fromAlpha = v.fromAlpha := by
  cases taken <;> rfl

theorem record?_writeAll (l : List (ColumnCell × BlockState)) (v : View) :
    (writeAll l v).record? = v.record? := by
  induction l generalizing v with
  | nil => rfl
  | cons w l ih => exact ih _

theorem fromAlpha_writeAll (l : List (ColumnCell × BlockState)) (v : View) :
    (writeAll l v).fromAlpha = v.fromAlpha := by
  induction l generalizing v with
  | nil => rfl
  | cons w l ih => exact ih _

theorem fromAlpha_perform (v : View) (i : ColumnCell) (e : Edit) :
    (CellStore.perform v i e).fromAlpha = v.fromAlpha := by
  rw [perform_eq, fromAlpha_writeAll, fromAlpha_take]

/-! ## block entities -/

theorem record?_perform (v : View) (i : ColumnCell) (e : Edit) (j : ColumnCell) :
    (CellStore.perform v i e).record? j = if e.consumes ∧ j = i then none else v.record? j := by
  rw [perform_eq, record?_writeAll]
  cases e.consumes with
  | false => simp [take]
  | true =>
    by_cases h : j = i
    · simp [take, h]
    · simp [take, h]

theorem record?_perform_ne (h : j ≠ i) (v : View) (e : Edit) :
    (CellStore.perform v i e).record? j = v.record? j := by
  rw [record?_perform, if_neg fun h' => h h'.2]

theorem record?_perform_congr (h : v.record? j = w.record? j) (i : ColumnCell) (e : Edit) :
    (CellStore.perform v i e).record? j = (CellStore.perform w i e).record? j := by
  rw [record?_perform, record?_perform, h]

/-! ## states -/

/-- What holds between the states of two views, and between the states that are written to the
same cells of them, holds afterwards. -/
theorem block_perform_related {R : ColumnCell → BlockState → BlockState → Prop} {e e' : Edit}
    (he : List.Forall₂ (fun a b => a.1 = b.1 ∧ R a.1 a.2 b.2) e.writes e'.writes)
    (hv : ∀ j, R j (v.block j) (w.block j)) (i j : ColumnCell) :
    R j ((CellStore.perform v i e).block j) ((CellStore.perform w i e').block j) := by
  have hall : ∀ {l l' : List (ColumnCell × BlockState)},
      List.Forall₂ (fun a b => a.1 = b.1 ∧ R a.1 a.2 b.2) l l' → ∀ u u' : View,
        (∀ j, R j (u.block j) (u'.block j)) →
          ∀ j, R j ((writeAll l u).block j) ((writeAll l' u').block j) := by
    intro l l' hl
    induction hl with
    | nil => exact fun u u' hu => hu
    | @cons a b l l' hab _ ih =>
      intro u u' hu
      refine ih (u.write a) (u'.write b) fun j => ?_
      by_cases hj : j = a.1
      · subst hj
        rw [block_write_self, hab.1, block_write_self, ← hab.1]
        exact hab.2
      · rw [block_write_ne hj, block_write_ne (hab.1 ▸ hj)]
        exact hu j
  rw [perform_eq, perform_eq]
  refine hall he _ _ (fun j => ?_) j
  rw [block_take, block_take]
  exact hv j

/-- What holds of every state that is there and of every state written holds afterwards. -/
theorem forall_block_perform {P : ColumnCell → BlockState → Prop} {e : Edit}
    (he : ∀ w ∈ e.writes, P w.1 w.2) (hv : ∀ j, P j (v.block j)) (i j : ColumnCell) :
    P j ((CellStore.perform v i e).block j) :=
  block_perform_related (w := v) (R := fun j b _ => P j b)
    (List.forall₂_same.2 fun w hw => ⟨rfl, he w hw⟩) hv i j

theorem block_perform_of_notMem {e : Edit} (h : ∀ w ∈ e.writes, w.1 ≠ j) (v : View)
    (i : ColumnCell) : (CellStore.perform v i e).block j = v.block j := by
  have hall := forall_block_perform (v := v) (P := fun k b => k = j → b = v.block j)
    (fun w hw hwj => absurd hwj (h w hw)) (fun k hk => by rw [hk]) i j
  exact hall rfl

theorem block_perform_congr (h : v.block j = w.block j) (i : ColumnCell) (e : Edit) :
    (CellStore.perform v i e).block j = (CellStore.perform w i e).block j :=
  block_perform_related (R := fun k b b' => k = j → b = b')
    (List.forall₂_same.2 fun _ _ => ⟨rfl, fun _ => rfl⟩) (fun k hk => by rw [hk, h]) i j rfl

end View

end Flattening
