import Flattening.Block.State

/-!
# Palettes

A palette lists block states without repetition, in the order of their first use, and keeps beside
the list a reverse table with the index of each state.  States are only ever added, so an index
keeps its meaning.

* `nodup`              no state is there twice;
* `mem_insert_self`, `insert_of_mem`   inserting a state;
* `get?_insert`        an index keeps its state;
* `get?_index`         the index of a state leads back to it;
* `index_get`          and the state of an index has that index;
* `mem_insertAll`      many states inserted in turn.
-/

namespace Flattening

structure Palette where
  states : Array BlockState
  /-- the index of each state, the last one in front -/
  indices : Entries BlockState Nat
  agree : ∀ s i, Entries.get? s indices = some i ↔ states[i]? = some s

namespace Palette

def empty : Palette := ⟨#[], [], by simp [Entries.get?_nil]⟩

def size (p : Palette) : Nat := p.states.size

def get? (p : Palette) (i : Nat) : Option BlockState := p.states[i]?

def index? (p : Palette) (s : BlockState) : Option Nat := Entries.get? s p.indices

/-- the index of a state; the size when it is not there -/
def index (p : Palette) (s : BlockState) : Nat := (p.index? s).getD p.size

theorem index?_eq_some_iff {p : Palette} {s : BlockState} {i : Nat} :
    p.index? s = some i ↔ p.get? i = some s := p.agree s i

theorem isSome_index?_iff {p : Palette} {s : BlockState} :
    (p.index? s).isSome ↔ s ∈ p.states := by
  rw [Option.isSome_iff_exists, Array.mem_iff_getElem?]
  exact exists_congr fun i => p.agree s i

/-- No state is there twice. -/
theorem nodup (p : Palette) : p.states.toList.Nodup := by
  rw [List.Nodup, List.pairwise_iff_getElem]
  intro i j hi hj hij he
  have hget : ∀ k (hk : k < p.states.toList.length),
      Entries.get? p.states.toList[k] p.indices = some k := fun k hk =>
    (p.agree _ k).2 (by rw [← Array.getElem?_toList, List.getElem?_eq_getElem hk])
  have hsame := hget i hi
  rw [he, hget j hj, Option.some.injEq] at hsame
  omega

/-- A new state goes to the end of the list and in front of the table. -/
theorem agree_push {p : Palette} {s : BlockState} (h : p.index? s = none) (t : BlockState)
    (i : Nat) :
    Entries.get? t ((s, p.size) :: p.indices) = some i ↔ (p.states.push s)[i]? = some t := by
  have hno : ∀ j, p.states[j]? ≠ some s := fun j hj => by
    rw [index?_eq_some_iff.2 hj] at h
    cases h
  rw [Entries.get?_cons, Array.getElem?_push]
  by_cases ht : t = s
  · rw [if_pos ht, Option.some.injEq, ht]
    by_cases hi : i = p.states.size
    · rw [if_pos hi, hi]
      exact ⟨fun _ => rfl, fun _ => rfl⟩
    · rw [if_neg hi]
      exact ⟨fun he => absurd he.symm hi, fun he => absurd he (hno i)⟩
  · rw [if_neg ht, p.agree]
    by_cases hi : i = p.states.size
    · rw [if_pos hi, hi, Array.getElem?_eq_none (Nat.le_refl _), Option.some.injEq]
      exact iff_of_false (fun he => by cases he) (fun he => ht he.symm)
    · rw [if_neg hi]

/-- A state that is already there is not added. -/
def insert (p : Palette) (s : BlockState) : Palette :=
  match h : p.index? s with
  | some _ => p
  | none => ⟨p.states.push s, (s, p.size) :: p.indices, agree_push h⟩

/-- the palette whose first state is air -/
def withAir : Palette := empty.insert .air

theorem insert_of_mem {p : Palette} {s : BlockState} (h : s ∈ p.states) : p.insert s = p := by
  unfold insert
  split
  · rfl
  · rename_i hnone
    rw [← isSome_index?_iff, hnone] at h
    cases h

theorem states_insert_of_notMem {p : Palette} {s : BlockState} (h : s ∉ p.states) :
    (p.insert s).states = p.states.push s := by
  unfold insert
  split
  · rename_i hsome
    exact absurd (isSome_index?_iff.1 (by rw [hsome]; rfl)) h
  · rfl

theorem mem_insert_self (p : Palette) (s : BlockState) : s ∈ (p.insert s).states := by
  by_cases h : s ∈ p.states
  · rwa [insert_of_mem h]
  · simp [states_insert_of_notMem h]

theorem mem_insert {p : Palette} {s t : BlockState} :
    t ∈ (p.insert s).states ↔ t ∈ p.states ∨ t = s := by
  by_cases h : s ∈ p.states
  · rw [insert_of_mem h]
    exact ⟨.inl, fun h' => h'.elim id fun e => e ▸ h⟩
  · rw [states_insert_of_notMem h, Array.mem_push]

theorem size_le_insert (p : Palette) (s : BlockState) : p.size ≤ (p.insert s).size := by
  by_cases h : s ∈ p.states
  · simp [insert_of_mem h]
  · simp [size, states_insert_of_notMem h]

theorem size_withAir_pos : 0 < withAir.size := by
  obtain ⟨i, hi, -⟩ := Array.mem_iff_getElem.1 (mem_insert_self empty .air)
  exact Nat.lt_of_le_of_lt (Nat.zero_le i) hi

theorem get?_insert {p : Palette} {i : Nat} (s : BlockState) (h : i < p.size) :
    (p.insert s).get? i = p.get? i := by
  by_cases hs : s ∈ p.states
  · rw [insert_of_mem hs]
  · have hi : i < p.states.size := h
    rw [get?, states_insert_of_notMem hs, Array.getElem?_push_lt hi, get?,
      Array.getElem?_eq_getElem hi]

theorem get?_index {p : Palette} {s : BlockState} (h : s ∈ p.states) :
    p.get? (p.index s) = some s := by
  obtain ⟨i, hi⟩ := Option.isSome_iff_exists.1 (isSome_index?_iff.2 h)
  rw [index, hi]
  exact index?_eq_some_iff.1 hi

theorem index_lt_size {p : Palette} {s : BlockState} (h : s ∈ p.states) : p.index s < p.size :=
  (Array.getElem?_eq_some_iff.1 (get?_index h)).1

theorem index_get {p : Palette} {i : Nat} {s : BlockState} (h : p.get? i = some s) :
    p.index s = i := by
  rw [index, index?_eq_some_iff.2 h]
  rfl

/-! ## many states -/

def insertAll (p : Palette) (l : List BlockState) : Palette := l.foldl insert p

theorem mem_insertAll {p : Palette} {l : List BlockState} {s : BlockState} :
    s ∈ (p.insertAll l).states ↔ s ∈ p.states ∨ s ∈ l := by
  induction l generalizing p with
  | nil => simp [insertAll]
  | cons t r ih =>
    have h : p.insertAll (t :: r) = (p.insert t).insertAll r := rfl
    rw [h, ih, mem_insert, List.mem_cons, or_assoc]

theorem insertAll_append_singleton (p : Palette) (l : List BlockState) (s : BlockState) :
    p.insertAll (l ++ [s]) = (p.insertAll l).insert s := by
  rw [insertAll, List.foldl_append]
  rfl

end Palette

end Flattening
