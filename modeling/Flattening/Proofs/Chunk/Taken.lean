import Flattening.Proofs.Chunk.Frame
import Flattening.Proofs.Chunk.RecordList

/-!
# Block entities while the rules run

Rules only take block entities.  The order of the cells stays, and what was taken is counted;
so what is left and how many were taken follow from what each cell still holds.

* `Taken`                     what a run keeps of the block entities;
* `Taken.unique`              the same block entities left in each cell means the same altogether;
* `Decoding.subperm_settle`   what is left are records of the level.
-/

namespace Flattening.Chunk

/-- The cells that were ever filled and the strays are those of `c₀`, and every block entity that
is gone was counted. -/
structure Taken (c₀ c : Chunk) : Prop where
  order_eq : c.entities.order = c₀.entities.order
  strays_eq : c.entities.strays = c₀.entities.strays
  total_eq : c.consumed + c.entities.size = c₀.consumed + c₀.entities.size

theorem Taken.cells_eq {c₀ c : Chunk} (h : Taken c₀ c) : c.entities.cells = c₀.entities.cells :=
  congrArg List.eraseDups h.order_eq

theorem Taken.consume {c₀ c : Chunk} (h : Taken c₀ c) (i : ColumnCell) :
    Taken c₀ (c.consume i) := by
  have hsize := c.entities.size_remove i
  have htotal := h.total_eq
  refine ⟨h.order_eq, h.strays_eq, ?_⟩
  show c.consumed + (if (c.entities.get? i).isSome then 1 else 0) + (c.entities.remove i).size = _
  omega

theorem runInvariant_taken {c₀ : Chunk} : RunInvariant fun (_ : Nat) (c : Chunk) => Taken c₀ c :=
  runInvariant_of_steps (fun _ _ _ _ h => h) (fun _ _ _ _ h => ⟨h.1, h.2, h.3⟩)
    (fun _ _ i h => h.consume i)

theorem taken_settle (c : Chunk) (log : Array Event) : Taken c (c.settle log).1 :=
  runInvariant_taken.runGroups (n := 0) c.groups log ⟨rfl, rfl, rfl⟩

/-- What the cells still hold settles what is left and how many were taken. -/
theorem Taken.unique {c₀ c c' : Chunk} (h : Taken c₀ c) (h' : Taken c₀ c')
    (hget : ∀ i, c'.entities.get? i = c.entities.get? i) :
    c'.entities = c.entities ∧ c'.consumed = c.consumed := by
  have horder : c'.entities.order = c.entities.order := h'.order_eq.trans h.order_eq.symm
  have hstrays : c'.entities.strays = c.entities.strays := h'.strays_eq.trans h.strays_eq.symm
  have hent := BlockEntities.eq_of_get?_eq horder hstrays hget
  have htotal := h.total_eq
  have htotal' := h'.total_eq
  rw [hent] at htotal'
  exact ⟨hent, by omega⟩

theorem runInvariant_left (l : List Tag) :
    RunInvariant fun (_ : Nat) (c : Chunk) => List.Subperm c.entities.records l :=
  runInvariant_of_steps (fun _ _ _ _ h => h) (fun _ _ _ _ h => h)
    (fun _ c i h => (c.entities.records_remove_subperm i).trans h)

/-- **What is left of the block entities are records of the level.** -/
theorem Decoding.subperm_settle {level : Tag} {log log' : Array Event} {c : Chunk}
    (d : Decoding level log log' c) (log₁ : Array Event) :
    List.Subperm (c.settle log₁).1.entities.records d.records :=
  (runInvariant_left d.records).runGroups (n := 0) c.groups log₁
    (BlockEntities.subperm_ofRecords d.entities_eq)

end Flattening.Chunk
