import Mathlib.Data.List.Perm.Basic

/-!
# Lists taken element by element

A reader that goes over a list stops at the first element that it cannot take.  So what it gives
are the answers for the elements, in their order, and it gives nothing when one of them has none.

* `mapM_eq_some_iff`          a list is read when each element is;
* `mapM_map_of_inverse`       what is read back one by one is read back from a list;
* `mapM_eq_some_iff_map`      and where a reader takes nothing else, so it is for lists;
* `exists_perm_of_map_perm`   what comes in another order was something in another order before.
-/

namespace Flattening

variable {α β : Type}

theorem forall₂_eq_some_iff {f : α → Option β} {l : List α} {bs : List β} :
    List.Forall₂ (fun a b => f a = some b) l bs ↔ l.map f = bs.map some := by
  rw [← List.forall₂_eq_eq_eq, List.forall₂_map_left_iff, List.forall₂_map_right_iff]

theorem forall₂_eq_map_iff {f : α → β} {l : List β} {as : List α} :
    List.Forall₂ (fun b a => b = f a) l as ↔ l = as.map f := by
  rw [← List.forall₂_map_right_iff, List.forall₂_eq_eq_eq]

theorem mapM_eq_some_iff {f : α → Option β} {l : List α} {bs : List β} :
    l.mapM f = some bs ↔ List.Forall₂ (fun a b => f a = some b) l bs := by
  induction l generalizing bs with
  | nil => cases bs <;> simp
  | cons a l ih =>
    rw [List.mapM_cons]
    constructor
    · intro h
      obtain ⟨b, hb, h⟩ := Option.bind_eq_some_iff.1 h
      obtain ⟨r, hr, h⟩ := Option.bind_eq_some_iff.1 h
      cases h
      exact .cons hb (ih.1 hr)
    · rintro (_ | ⟨hb, hr⟩)
      rw [hb, ih.2 hr]
      rfl

/-- What is read back one by one is read back from a list. -/
theorem mapM_map_of_inverse {f : α → β} {g : β → Option α} {l : List α}
    (h : ∀ a ∈ l, g (f a) = some a) : (l.map f).mapM g = some l := by
  rw [mapM_eq_some_iff, List.forall₂_map_left_iff, List.forall₂_same]
  exact h

/-- A reader that takes only what was made from something takes lists of such things only. -/
theorem mapM_eq_some_iff_map {f : α → β} {g : β → Option α} (h : ∀ b a, g b = some a ↔ b = f a)
    {l : List β} {as : List α} : l.mapM g = some as ↔ l = as.map f := by
  rw [mapM_eq_some_iff, ← forall₂_eq_map_iff]
  simp only [h]

/-- What comes in another order was something in another order before. -/
theorem exists_perm_of_map_perm {f : α → β} {l : List α} {l' : List β}
    (hl : l'.Perm (l.map f)) : ∃ k : List α, k.Perm l ∧ l' = k.map f := by
  obtain ⟨k, hk, hp⟩ := List.perm_comp_forall₂ hl (forall₂_eq_map_iff.2 rfl)
  exact ⟨k, hp, forall₂_eq_map_iff.1 hk⟩

end Flattening
