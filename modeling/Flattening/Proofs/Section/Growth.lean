import Flattening.Proofs.Section.Scan
import Mathlib.Algebra.Order.BigOperators.Group.List
import Mathlib.Algebra.Order.Ring.Nat

/-!
# What happens to a section while the rules run

The states of a section change and its palette grows; everything else about it, its frame,
stays.  The palette keeps air in front and grows by at most one state for each state written.

* `size_insertAll_le`, `get?_zero_insertAll`   palettes grow slowly and behind their first state;
* `Bounded`             air comes first, and there are at most so many states;
* `Section.frame_setBlock`   writing a state keeps the frame.
-/

namespace Flattening

/-! ## palettes -/

namespace Palette

theorem size_insert_le (p : Palette) (s : BlockState) : (p.insert s).size ≤ p.size + 1 := by
  by_cases h : s ∈ p.states
  · rw [insert_of_mem h]
    exact Nat.le_succ p.size
  · rw [size, states_insert_of_notMem h, Array.size_push]
    exact Nat.le_refl _

theorem size_insertAll_le (p : Palette) (l : List BlockState) :
    (p.insertAll l).size ≤ p.size + l.length := by
  induction l generalizing p with
  | nil => exact Nat.le_refl _
  | cons s r ih =>
    have h1 := p.size_insert_le s
    have h2 := ih (p.insert s)
    show ((p.insert s).insertAll r).size ≤ p.size + (r.length + 1)
    omega

theorem get?_zero_insert {p : Palette} {t : BlockState} (h : p.get? 0 = some t) (s : BlockState) :
    (p.insert s).get? 0 = some t := by
  have hp : 0 < p.size := (Array.getElem?_eq_some_iff.1 h).1
  rw [get?_insert s hp, h]

theorem get?_zero_insertAll {p : Palette} {t : BlockState} (h : p.get? 0 = some t)
    (l : List BlockState) : (p.insertAll l).get? 0 = some t := by
  induction l generalizing p with
  | nil => exact h
  | cons s r ih => exact ih (get?_zero_insert h s)

theorem get?_zero_withAir : withAir.get? 0 = some .air := by
  rw [withAir, get?, states_insert_of_notMem (by simp [empty])]
  rfl

theorem size_withAir_le : withAir.size ≤ 1 := size_insert_le empty .air

end Palette

/-! ## decoded cells -/

namespace DecodedCells

/-- The palette starts with air and has at most `n` states. -/
structure Bounded (n : Nat) (d : DecodedCells) : Prop where
  air_first : d.palette.get? 0 = some .air
  size_le : d.palette.size ≤ n

variable {m n : Nat} {d : DecodedCells}

theorem Bounded.mono (h : d.Bounded m) (hn : m ≤ n) : d.Bounded n :=
  ⟨h.air_first, Nat.le_trans h.size_le hn⟩

theorem Bounded.setBlock (h : d.Bounded n) (c : Cell) (s : BlockState) :
    (d.setBlock c s).Bounded (n + 1) :=
  ⟨Palette.get?_zero_insert h.air_first s,
    Nat.le_trans (d.palette.size_insert_le s) (Nat.succ_le_succ h.size_le)⟩

theorem bounded_decode (l : LegacyLayers) : (decode l).Bounded 4097 := by
  constructor
  · rw [palette_decode]
    exact Palette.get?_zero_insertAll Palette.get?_zero_withAir _
  · have h1 := Palette.size_withAir_le
    have h2 := Palette.withAir.size_insertAll_le (Cell.all.map l.state)
    have hlen : (Cell.all.map l.state).length = 4096 := by
      rw [List.length_map, Cell.all, List.length_finRange]
    rw [palette_decode, decodedPalette]
    omega

end DecodedCells

/-! ## cells that wait -/

theorem sum_map_le {α : Type} {l : List α} {f : α → Nat} {m : Nat} (h : ∀ a ∈ l, f a ≤ m) :
    (l.map f).sum ≤ l.length * m := by
  have hs : ∀ n ∈ l.map f, n ≤ m := by
    intro n hn
    obtain ⟨a, ha, rfl⟩ := List.mem_map.1 hn
    exact h a ha
  have h' := List.sum_le_card_nsmul (l.map f) m hs
  rwa [List.length_map, Nat.nsmul_eq_mul] at h'

theorem LegacyLayers.length_cellsOf_le (l : LegacyLayers) (block : Nat) :
    (l.cellsOf block).length ≤ 4096 := by
  have h := List.length_filter_le (fun c => l.block c == block) Cell.all
  rwa [Cell.all, List.length_finRange] at h

theorem LegacyLayers.sum_pending_le (l : LegacyLayers) :
    (l.pending.map fun p => p.2.length).sum ≤ 18 * 4096 := by
  have hlen : l.pending.length ≤ 18 := by
    have h := List.length_filter_le (fun g => !g.2.isEmpty)
      (Rule.ruledBlocks.map fun b => (b, l.cellsOf b))
    rwa [List.length_map] at h
  have hcells : ∀ p ∈ l.pending, p.2.length ≤ 4096 := by
    intro p hp
    obtain ⟨b, -, rfl⟩ := List.mem_map.1 (List.mem_filter.1 hp).1
    dsimp only
    exact l.length_cellsOf_le b
  exact Nat.le_trans (sum_map_le hcells) (Nat.mul_le_mul_right _ hlen)

/-! ## sections -/

/-- what the rules leave as it is in a section -/
structure SectionFrame where
  y : Fin 16
  fields : Entries String Tag
  deferred : List Cell
  isDecoded : Bool

namespace Section

def frame (s : Section) : SectionFrame := ⟨s.y, s.fields, s.deferred, s.decoded?.isSome⟩

theorem frame_setBlock (s : Section) (c : Cell) (b : BlockState) :
    (s.setBlock c b).frame = s.frame := by
  obtain ⟨y, m, k⟩ := s
  cases k with
  | decoded d => rfl
  | bare | legacy l => rfl

theorem frame_clearPending (s : Section) : s.clearPending.frame = s.frame := by
  obtain ⟨y, m, k⟩ := s
  cases k with
  | decoded d => rfl
  | bare | legacy l => rfl

theorem y_decode (s : Section) : s.decode.y = s.y := by
  obtain ⟨y, m, k⟩ := s
  cases k <;> rfl

theorem decoded?_setBlock (s : Section) (c : Cell) (b : BlockState) :
    (s.setBlock c b).decoded? = s.decoded?.map (·.setBlock c b) := by
  obtain ⟨y, m, k⟩ := s
  cases k with
  | decoded d => rfl
  | bare | legacy l => rfl

theorem decoded?_clearPending (s : Section) :
    s.clearPending.decoded? = s.decoded?.map fun d => { d with pending := [] } := by
  obtain ⟨y, m, k⟩ := s
  cases k with
  | decoded d => rfl
  | bare | legacy l => rfl

theorem block_clearPending (s : Section) (c : Cell) : s.clearPending.block c = s.block c := by
  obtain ⟨y, m, k⟩ := s
  cases k with
  | decoded d => rfl
  | bare | legacy l => rfl

end Section

end Flattening
