/-!
# Tables: vectors read at an index in range

What a vector holds after it was built, mapped or changed at one place.

* `get_map`                           every place mapped;
* `get_ofFn`, `get_replicate`         a vector built from a function or a value;
* `get_set_self`, `get_set_ne`        one place replaced;
* `get_modify_self`, `get_modify_ne`  one place changed.
-/

namespace Flattening.Table

variable {α β : Type} {n : Nat}

theorem get_ofFn (f : Fin n → α) (c : Fin n) : (Vector.ofFn f).get c = f c := by
  show (Vector.ofFn f)[c.val] = _
  simp

theorem get_map (v : Vector α n) (g : α → β) (c : Fin n) : (v.map g).get c = g (v.get c) := by
  show (v.map g)[c.val] = g v[c.val]
  simp

theorem get_replicate (a : α) (c : Fin n) : (Vector.replicate n a).get c = a := by
  show (Vector.replicate n a)[c.val] = a
  simp

theorem get_set_self (v : Vector α n) (c : Fin n) (a : α) :
    (v.set c.val a c.isLt).get c = a := by
  show (v.set c.val a c.isLt)[c.val] = a
  simp

theorem get_set_ne (v : Vector α n) {c e : Fin n} (h : e ≠ c) (a : α) :
    (v.set c.val a c.isLt).get e = v.get e := by
  have hv : c.val ≠ e.val := fun h' => h (Fin.ext h'.symm)
  show (v.set c.val a c.isLt)[e.val] = v[e.val]
  simp [hv]

def modify (v : Vector α n) (c : Fin n) (f : α → α) : Vector α n :=
  ⟨v.toArray.modify c.val f, by simp⟩

theorem get_modify_self (v : Vector α n) (c : Fin n) (f : α → α) :
    (modify v c f).get c = f (v.get c) := by
  obtain ⟨a, rfl⟩ := v
  have h : c.val < (a.modify c.val f).size := by simp
  show (a.modify c.val f)[c.val] = f a[c.val]
  rw [Array.getElem_modify, if_pos rfl]

theorem get_modify_ne (v : Vector α n) {c e : Fin n} (h : e ≠ c) (f : α → α) :
    (modify v c f).get e = v.get e := by
  obtain ⟨a, rfl⟩ := v
  have hv : c.val ≠ e.val := fun h' => h (Fin.ext h'.symm)
  have he : e.val < (a.modify c.val f).size := by simp
  show (a.modify c.val f)[e.val] = a[e.val]
  rw [Array.getElem_modify, if_neg hv]

end Flattening.Table
