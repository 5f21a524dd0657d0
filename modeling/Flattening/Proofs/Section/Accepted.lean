import Flattening.Geometry.Cell
import Flattening.Proofs.Section.ReadBack
import Flattening.Table

/-!
# What is accepted as a flattened section

A tag is accepted when its words are as many as the width of its palette asks for, and every index
in them is in the palette.  So each cell of what was accepted has a state, and writing it gives back
the words that were read.  The palette may be written otherwise than it stood there: a state with no
properties has none in its tag.

* `y_lt_of_y?`, `get?_of_words?`   what each field says;
* `sound_of_read`        what was read is sound;
* `Sound.exists_block`   each cell of a sound section has a state;
* `ReadFrom`, `read_both_ways`   reading and writing, and packing and reading.
-/

namespace Flattening

namespace FlatSection

variable {t : Tag} {s : FlatSection}

/-! ## what was read -/

theorem y_lt_of_y? {y : UInt8} (h : y? t = some y) : y.toNat < 16 := by
  unfold y? at h
  split at h
  · rename_i n hn
    split at h
    · rename_i hrange
      obtain rfl := Option.some.inj h
      rw [UInt8.toNat_ofNat_of_lt' (by show n.toInt.toNat < 256; omega)]
      omega
    · cases h
  · cases h

/-- Words are written with a sign and read without it; nothing else happens to them. -/
theorem get?_of_words? {words : Array UInt64} (h : words? t = .ok words) :
    t.get? "BlockStates" = some (.longArray (words.map UInt64.toInt64)) := by
  unfold words? at h
  split at h
  · cases h
  · rename_i a ha
    obtain rfl := Except.ok.inj h
    obtain ⟨u, hu, hlong⟩ := Option.bind_eq_some_iff.1 ha
    have hsigns : UInt64.toInt64 ∘ Int64.toUInt64 = id := funext Int64.toInt64_toUInt64
    rw [Array.map_map, hsigns, Array.map_id, hu]
    cases u with
    | longArray v =>
      cases hlong
      rfl
    | _ => cases hlong

theorem sound_of_read (h : ofTag? t = .ok s) : s.Sound := by
  obtain ⟨hy, -, -, hbits, hlength, hlt⟩ := ofTag?_eq_ok_iff.1 h
  exact ⟨y_lt_of_y? hy, hbits, hlength, hlt⟩

/-- The words are written as they stood in the tag. -/
theorem get?_cells_of_read (h : ofTag? t = .ok s) (fields : Entries String Tag) :
    (s.toTag fields).get? "BlockStates" = t.get? "BlockStates" := by
  obtain ⟨-, -, hwords, -⟩ := ofTag?_eq_ok_iff.1 h
  rw [get?_cells_toTag, get?_of_words? hwords]
  rfl

/-- Each cell of a sound section has a state. -/
theorem Sound.exists_block (h : s.Sound) (c : Cell) : ∃ b, s.block c.val = .ok b := by
  have hc : c.val < s.cells.length := by
    rw [h.length_eq]
    exact c.isLt
  have hget : s.cells.get c.val = .ok (s.cells.entry ⟨c.val, hc⟩) := by
    rw [PackedArray.get, dif_pos hc]
  have hlt : s.cells.entry ⟨c.val, hc⟩ < s.palette.size :=
    h.cells_lt _ (List.mem_map_of_mem (List.mem_finRange _))
  exact ⟨_, block_eq_ok hget (Array.getElem?_eq_getElem hlt)⟩

/-! ## both ways -/

/-- What a section that was read from a tag is good for. -/
structure ReadFrom (t : Tag) (s : FlatSection) : Prop where
  y_lt : s.y.toNat < 16
  palette_ne : s.palette ≠ #[]
  bits_least : IsLeast {w | 4 ≤ w ∧ s.palette.size ≤ 2 ^ w} s.cells.bits
  size_words : s.cells.words.size = 64 * s.cells.bits
  exists_block : ∀ c : Cell, ∃ b, s.block c.val = .ok b
  read_again : ∀ fields, ofTag? (s.toTag fields) = .ok s
  cells_kept : ∀ fields, (s.toTag fields).get? "BlockStates" = t.get? "BlockStates"

theorem readFrom (h : ofTag? t = .ok s) : s.ReadFrom t := by
  have hsound := sound_of_read h
  refine ⟨hsound.y_lt, Array.ne_empty_of_size_pos hsound.size_palette_pos, ?_, ?_,
    hsound.exists_block, ofTag?_toTag hsound, get?_cells_of_read h⟩
  · rw [hsound.bits_eq]
    exact isLeast_bitsForPalette s.palette.size
  · rw [s.cells.size_words, hsound.length_eq, wordsFor_section]

/-- **Whatever is accepted is safe to use and written as it was read**, and whatever is packed is
accepted and gives back its cells. -/
theorem read_both_ways :
    (∀ t s, ofTag? t = .ok s → ReadFrom t s) ∧
      ∀ (y : UInt8) (p : Palette) (cells : Vector Nat 4096), y.toNat < 16 →
        p.size ≤ 2 ^ 31 - 1 → (∀ c : Cell, cells.get c < p.size) → ∀ fields,
          ∃ s r, ofCells y p cells.toList = .ok s ∧ ofTag? (s.toTag fields) = .ok r ∧ r.y = y ∧
            r.palette = p.states ∧
            ∀ c : Cell, ∃ b, r.block c.val = .ok b ∧ p.get? (cells.get c) = some b := by
  refine ⟨fun t s h => readFrom h, fun y p cells hy hp hcells fields => ?_⟩
  obtain ⟨s, hs, hsound, hsy, hpalette, hblock⟩ :=
    ofCells_eq_ok hy (Nat.le_trans hp (by decide)) hcells
  exact ⟨s, s, hs, ofTag?_toTag hsound fields, hsy, hpalette, hblock⟩

/-- air and stone in turn -/
def stripes : Vector Nat 4096 := Vector.ofFn fun c => c.val % 2

theorem read_both_ways_stripes : ∃ t r, ofTag? t = .ok r ∧ ReadFrom t r ∧ r.y = 5 ∧
    r.palette.size = 2 ∧ r.block 4095 = .ok (.plain "minecraft:stone") := by
  have hsize : (Palette.withAir.insert (.plain "minecraft:stone")).size = 2 := by decide +kernel
  have hlt : ∀ c : Cell,
      stripes.get c < (Palette.withAir.insert (.plain "minecraft:stone")).size := fun c => by
    rw [stripes, Table.get_ofFn, hsize]
    exact Nat.mod_lt _ (by decide)
  obtain ⟨hread, hpack⟩ := read_both_ways
  obtain ⟨s, r, -, hr, hy, hpalette, hblock⟩ :=
    hpack 5 _ stripes (by decide) (by rw [hsize]; decide) hlt []
  obtain ⟨b, hb, hstone⟩ := hblock 4095
  refine ⟨s.toTag [], r, hr, hread _ r hr, hy, ?_, ?_⟩
  · rw [hpalette]
    exact hsize
  · have hindex : stripes.get 4095 = 1 := Table.get_ofFn _ 4095
    have hget : (Palette.withAir.insert (.plain "minecraft:stone")).get? 1 =
        some (.plain "minecraft:stone") := by decide +kernel
    rw [hindex, hget, Option.some.injEq] at hstone
    rw [hstone]
    exact hb

end FlatSection

end Flattening
