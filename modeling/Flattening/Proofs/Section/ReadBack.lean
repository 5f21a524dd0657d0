import Flattening.Proofs.Section.BitString
import Flattening.Proofs.Traversal
import Flattening.Section.Flat
import Mathlib.Order.Bounds.Defs

/-!
# A flattened section is read back from its tag

* `bitsForPalette_le_iff`   the width is the least one that is wide enough;
* `Sound`                   what a section must satisfy to be read again;
* `ofTag?_eq_ok_iff`        what a section is read from;
* `ofTag?_toTag`            a sound section is read from its own tag, whatever other fields
  that has;
* `ofCells_eq_ok`           packing the cells of a palette gives a sound section with the same
  states.
-/

namespace Flattening

/-! ## widths -/

theorem ceilLog2_le_iff (n w : Nat) : ceilLog2 n ≤ w ↔ n ≤ 2 ^ w := by
  unfold ceilLog2
  by_cases h : n ≤ 1
  · have := Nat.one_le_two_pow (n := w)
    rw [if_pos h]
    omega
  · have hn : n - 1 ≠ 0 := by omega
    rw [if_neg h, Nat.succ_le_iff, Nat.log2_lt hn]
    omega

/-- The width is the least one of four or more bits that tells the states apart. -/
theorem bitsForPalette_le_iff (n w : Nat) : bitsForPalette n ≤ w ↔ 4 ≤ w ∧ n ≤ 2 ^ w := by
  rw [bitsForPalette, Nat.max_le, ceilLog2_le_iff]

theorem le_two_pow_bitsForPalette (n : Nat) : n ≤ 2 ^ bitsForPalette n :=
  ((bitsForPalette_le_iff n _).1 (Nat.le_refl _)).2

theorem isLeast_bitsForPalette (n : Nat) :
    IsLeast {w | 4 ≤ w ∧ n ≤ 2 ^ w} (bitsForPalette n) :=
  ⟨(bitsForPalette_le_iff n _).1 (Nat.le_refl _), fun w h => (bitsForPalette_le_iff n w).2 h⟩

/-- The number of words of a section does not round: 4096 cells fill whole words. -/
theorem wordsFor_section (bits : Nat) : wordsFor bits 4096 = 64 * bits := by
  unfold wordsFor
  omega

/-! ## packed arrays -/

namespace PackedArray

theorem ofWords?_eq_some_iff {bits length : Nat} {words : Array UInt64} {a : PackedArray} :
    ofWords? bits length words = some a ↔ a.bits = bits ∧ a.length = length ∧ a.words = words := by
  constructor
  · intro h
    unfold ofWords? at h
    split at h
    · cases h
      exact ⟨rfl, rfl, rfl⟩
    · cases h
  · rintro ⟨rfl, rfl, rfl⟩
    rw [ofWords?, dif_pos ⟨⟨a.one_le_bits, a.bits_le⟩, a.size_words⟩]

theorem get_eq_ok_iff {a : PackedArray} {i k : Nat} : a.get i = .ok k ↔ a.toList[i]? = some k := by
  have hlength : a.toList.length = a.length := by
    rw [toList, List.length_map, List.length_finRange]
  by_cases h : i < a.length
  · have hi : i < a.toList.length := by rwa [hlength]
    have hentry : a.toList[i] = a.entry ⟨i, h⟩ := by simp [toList]
    rw [get, dif_pos h, List.getElem?_eq_getElem hi, hentry, Except.ok.injEq, Option.some.injEq]
  · have hi : a.toList.length ≤ i := by rw [hlength]; exact Nat.not_lt.1 h
    rw [get, dif_neg h, List.getElem?_eq_none hi]
    exact iff_of_false (fun he => by cases he) (fun he => by cases he)

end PackedArray

/-! ## sections -/

namespace FlatSection

structure Sound (s : FlatSection) : Prop where
  y_lt : s.y.toNat < 16
  bits_eq : s.cells.bits = bitsForPalette s.palette.size
  length_eq : s.cells.length = 4096
  cells_lt : ∀ k ∈ s.cells.toList, k < s.palette.size

variable {s : FlatSection}

/-! ## the fields of the tag -/

theorem get?_y_toTag (s : FlatSection) (fields : Entries String Tag) :
    (s.toTag fields).get? "Y" = some (.byte s.y.toInt8) := by
  rw [toTag, Tag.get?_compound, Entries.get?_insert_ne (by decide),
    Entries.get?_insert_ne (by decide), Entries.get?_insert_self]

theorem get?_palette_toTag (s : FlatSection) (fields : Entries String Tag) :
    (s.toTag fields).get? "Palette" = some s.paletteTag := by
  rw [toTag, Tag.get?_compound, Entries.get?_insert_ne (by decide), Entries.get?_insert_self]

theorem get?_cells_toTag (s : FlatSection) (fields : Entries String Tag) :
    (s.toTag fields).get? "BlockStates" = some s.cellsTag := by
  rw [toTag, Tag.get?_compound, Entries.get?_insert_self]

theorem toInt_byte {y : UInt8} (h : y.toNat < 16) : y.toInt8.toInt64.toInt = y.toNat := by
  rw [Int8.toInt_toInt64]
  show y.toBitVec.toInt = y.toNat
  rw [BitVec.toInt_eq_toNat_of_lt (by show 2 * y.toNat < 2 ^ 8; omega)]
  rfl

theorem y?_toTag (hy : s.y.toNat < 16) (fields : Entries String Tag) :
    y? (s.toTag fields) = some s.y := by
  have h := toInt_byte hy
  rw [y?, get?_y_toTag]
  show (if 0 ≤ s.y.toInt8.toInt64.toInt ∧ s.y.toInt8.toInt64.toInt < 16 then
    some (UInt8.ofNat s.y.toInt8.toInt64.toInt.toNat) else none) = _
  rw [h, if_pos (by omega), Int.toNat_natCast, UInt8.ofNat_toNat]

theorem mapM_ofTag?_toTag (l : List BlockState) :
    (l.map BlockState.toTag).mapM BlockState.ofTag? = some l :=
  mapM_map_of_inverse fun s _ => s.ofTag?_toTag

theorem palette?_toTag (hp : 0 < s.palette.size) (fields : Entries String Tag) :
    palette? (s.toTag fields) = .ok s.palette := by
  have hl : s.palette.toList ≠ [] := by
    intro h
    rw [← Array.length_toList, h] at hp
    exact absurd hp (Nat.lt_irrefl 0)
  simp only [palette?, get?_palette_toTag, paletteTag, Tag.list?, Option.bind_some,
    mapM_ofTag?_toTag]

theorem words?_toTag (s : FlatSection) (fields : Entries String Tag) :
    words? (s.toTag fields) = .ok s.cells.words := by
  rw [words?, get?_cells_toTag]
  show Except.ok ((s.cells.words.map UInt64.toInt64).map Int64.toUInt64) = _
  rw [Array.map_map]
  have h : (Int64.toUInt64 ∘ UInt64.toInt64) = id := by
    funext w
    exact UInt64.toUInt64_toInt64 w
  rw [h, Array.map_id]

/-! ## reading and packing -/

/-- What a section is read from: its fields one by one, and an index in the palette for each
cell. -/
theorem ofTag?_eq_ok_iff {t : Tag} : ofTag? t = .ok s ↔
    y? t = some s.y ∧ palette? t = .ok s.palette ∧ words? t = .ok s.cells.words ∧
      s.cells.bits = bitsForPalette s.palette.size ∧ s.cells.length = 4096 ∧
      ∀ k ∈ s.cells.toList, k < s.palette.size := by
  constructor
  · intro h
    unfold ofTag? at h
    cases hy : y? t with
    | none => rw [hy] at h; cases h
    | some y =>
      cases hp : palette? t with
      | error e => rw [hy, hp] at h; cases h
      | ok palette =>
        cases hw : words? t with
        | error e => rw [hy, hp, hw] at h; cases h
        | ok words =>
          rw [hy, hp, hw] at h
          dsimp only at h
          split at h
          · cases h
          · rename_i cells hcells
            split at h
            · cases h
            · rename_i hfind
              obtain rfl := Except.ok.inj h
              obtain ⟨hbits, hlength, rfl⟩ := PackedArray.ofWords?_eq_some_iff.1 hcells
              refine ⟨rfl, rfl, rfl, hbits, hlength, fun k hk => ?_⟩
              have hk' := List.find?_eq_none.1 hfind k hk
              rwa [decide_eq_true_eq, Nat.not_le] at hk'
  · rintro ⟨hy, hp, hw, hbits, hlength, hlt⟩
    have hcells := PackedArray.ofWords?_eq_some_iff.2 ⟨hbits, hlength, rfl⟩
    have hfind : s.cells.toList.find? (fun k => decide (s.palette.size ≤ k)) = none :=
      List.find?_eq_none.2 fun k hk => by
        rw [decide_eq_true_eq, Nat.not_le]
        exact hlt k hk
    rw [ofTag?, hy, hp, hw]
    simp only [hcells, hfind]

theorem Sound.size_palette_pos (h : s.Sound) : 0 < s.palette.size := by
  have hn : 0 < s.cells.length := by rw [h.length_eq]; decide
  have hm : s.cells.entry ⟨0, hn⟩ ∈ s.cells.toList := List.mem_map_of_mem (List.mem_finRange _)
  exact Nat.lt_of_le_of_lt (Nat.zero_le _) (h.cells_lt _ hm)

/-- **A sound section is read back from its tag.** -/
theorem ofTag?_toTag (h : s.Sound) (fields : Entries String Tag) :
    ofTag? (s.toTag fields) = .ok s :=
  ofTag?_eq_ok_iff.2 ⟨y?_toTag h.y_lt fields, palette?_toTag h.size_palette_pos fields,
    words?_toTag s fields, h.bits_eq, h.length_eq, h.cells_lt⟩

theorem block_eq_ok {k i : Nat} {b : BlockState} (hc : s.cells.get i = .ok k)
    (hp : s.palette[k]? = some b) : s.block i = .ok b := by
  rw [block, hc]
  simp only [hp]

/-- **Packing the cells of a palette succeeds**, at the width of the palette, and keeps the state
of each cell. -/
theorem ofCells_eq_ok {y : UInt8} (hy : y.toNat < 16) {p : Palette} (hp : p.size ≤ 2 ^ 32)
    {cells : Vector Nat 4096} (hc : ∀ c : Fin 4096, cells.get c < p.size) :
    ∃ s, ofCells y p cells.toList = .ok s ∧ s.Sound ∧ s.y = y ∧ s.palette = p.states ∧
      ∀ c : Fin 4096, ∃ b, s.block c.val = .ok b ∧ p.get? (cells.get c) = some b := by
  have hall : ∀ k ∈ cells.toList, k < p.size := by
    intro k hk
    obtain ⟨i, hi, rfl⟩ := Vector.mem_iff_getElem.1 (Vector.mem_toList_iff.1 hk)
    exact hc ⟨i, hi⟩
  have h4 : 1 ≤ bitsForPalette p.size :=
    Nat.le_trans (by decide) (four_le_bitsForPalette p.size)
  have h32 : bitsForPalette p.size ≤ 32 := (bitsForPalette_le_iff _ _).2 ⟨by decide, hp⟩
  have hlt : ∀ k ∈ cells.toList, k < 2 ^ bitsForPalette p.size := fun k hk =>
    Nat.lt_of_lt_of_le (hall k hk) (le_two_pow_bitsForPalette p.size)
  obtain ⟨a, ha, hbits, hlength, hlist⟩ := PackedArray.ofList_eq_ok h4 h32 hlt
  refine ⟨⟨y, p.states, a⟩, ?_, ⟨hy, hbits, hlength.trans cells.length_toList, ?_⟩, rfl, rfl,
    fun c => ?_⟩
  · rw [ofCells, ha]
  · intro k hk
    rw [hlist] at hk
    exact hall k hk
  · have hget : a.get c.val = .ok (cells.get c) := by
      rw [PackedArray.get_eq_ok_iff, hlist, Vector.getElem?_toList,
        Vector.getElem?_eq_getElem c.isLt]
      rfl
    have hsize : cells.get c < p.states.size := hc c
    have hstate : p.states[cells.get c]? = some p.states[cells.get c] :=
      Array.getElem?_eq_getElem hsize
    exact ⟨_, block_eq_ok hget hstate, hstate⟩

end FlatSection

end Flattening
