import Flattening.Proofs.Chunk.Reading
import Flattening.Proofs.Section.Growth
import Mathlib.Data.List.Induction
import Mathlib.Data.List.Sort

/-!
# One section decoded

The arrays of a section give each cell a number: a byte of `Blocks`, and half a byte each of `Data`
and of `Add`, where an array that is absent counts as zeros.  Decoding makes of these numbers the
states of the cells, the palette and the cells that wait for a rule, and of nothing else.

* `cellNumber`            the number of a cell, read from the section's tag;
* `legacyId_eq`           which is the number that the section is decoded by;
* `toList_insertAll`      a palette takes each state where it first occurs;
* `mem_pending_iff`       a group waits for each block id that has a rule and occurs;
* `decodedBy_cellNumber`  one section as a whole.
-/

namespace Flattening

/-! ## what the arrays say -/

/-- a byte of the array under the key, without sign, zero without such a byte -/
def arrayByte (t : Tag) (key : String) (n : Nat) : Nat :=
  ((((t.get? key).bind Tag.byteArray?).bind fun a => a[n]?).map fun b =>
    (b.toInt % 256).toNat).getD 0

/-- the half byte of a cell, the low half for an even cell and the high half for an odd one -/
def arrayNibble (t : Tag) (key : String) (c : Cell) : Nat :=
  if c.val % 2 = 0 then arrayByte t key (c.val / 2) % 16 else arrayByte t key (c.val / 2) / 16

/-- the number of a cell -/
def cellNumber (t : Tag) (c : Cell) : Nat :=
  4096 * arrayNibble t "Add" c + 16 * arrayByte t "Blocks" c.val + arrayNibble t "Data" c

theorem toNat_toUInt8 (b : Int8) : b.toUInt8.toNat = (b.toInt % 256).toNat := by
  have h : b.toInt = (b.toUInt8.toNat : Int).bmod (256 : Nat) :=
    BitVec.toInt_eq_toNat_bmod b.toBitVec
  have hlt := b.toUInt8.toNat_lt
  have hmod : b.toInt % (256 : Nat) = (b.toUInt8.toNat : Int) % (256 : Nat) := by
    rw [h, Int.bmod_emod]
  omega

namespace Section

variable {m : Entries String Tag} {l : LegacyLayers}

theorem arrayByte_of_some {key : String} {a : Array Int8} (h : bytes? m key = .ok (some a))
    {n : Nat} (hn : n < a.size) : arrayByte (.compound m) key n = a[n].toUInt8.toNat := by
  unfold bytes? at h
  split at h
  · cases h
  · rename_i t ht
    split at h
    · cases h
    · rename_i a' ha
      obtain rfl : a' = a := Option.some.inj (Except.ok.inj h)
      rw [arrayByte, Tag.get?_compound, ht, Option.bind_some, ha, Option.bind_some,
        Array.getElem?_eq_getElem hn, Option.map_some, Option.getD_some, toNat_toUInt8]

theorem arrayByte_of_none {key : String} (h : bytes? m key = .ok none) (n : Nat) :
    arrayByte (.compound m) key n = 0 := by
  unfold bytes? at h
  split at h
  · rename_i hkey
    rw [arrayByte, Tag.get?_compound, hkey]
    rfl
  · split at h
    · cases h
    · cases h

theorem get_nibbles {key : String} {layer : Nibbles} (h : nibbles? m key = .ok layer) (c : Cell) :
    layer.get c = arrayNibble (.compound m) key c := by
  unfold nibbles? at h
  cases hb : bytes? m key with
  | error e =>
    rw [hb] at h
    cases h
  | ok o =>
    rw [hb] at h
    cases o with
    | none =>
      obtain rfl : Nibbles.absent = layer := Except.ok.inj h
      rw [Nibbles.get_absent, arrayNibble, arrayByte_of_none hb]
      split <;> rfl
    | some a =>
      unfold Nibbles.ofBytes? at h
      dsimp only at h
      split at h
      · rename_i hsize
        obtain rfl := Except.ok.inj h
        have hn : c.val / 2 < a.size := by omega
        have hbyte : (Vector.mk (a.map Int8.toUInt8) (by simpa using hsize)).get
            (⟨c.val / 2, by omega⟩ : Fin 2048) = a[c.val / 2].toUInt8 :=
          Table.get_map (Vector.mk a hsize) Int8.toUInt8 ⟨c.val / 2, by omega⟩
        rw [arrayNibble, arrayByte_of_some hb hn]
        split
        · rename_i heven
          rw [Nibbles.get_even heven, hbyte]
        · rename_i hodd
          rw [Nibbles.get_odd (by omega), hbyte]
      · cases h

/-- What the layers of a section are read from. -/
theorem layers?_eq_some (h : layers? m = .ok (some l)) :
    (∀ c : Cell, (l.ids.get c).toNat = arrayByte (.compound m) "Blocks" c.val) ∧
      nibbles? m "Data" = .ok l.data ∧ nibbles? m "Add" = .ok l.add := by
  unfold layers? at h
  cases hb : bytes? m "Blocks" with
  | error e =>
    rw [hb] at h
    cases h
  | ok o =>
    rw [hb] at h
    cases o with
    | none => cases h
    | some a =>
      dsimp only at h
      split at h
      · rename_i hsize
        cases hd : nibbles? m "Data" with
        | error e =>
          rw [hd] at h
          cases h
        | ok data =>
          cases ha : nibbles? m "Add" with
          | error e =>
            rw [hd, ha] at h
            cases h
          | ok add =>
            rw [hd, ha] at h
            obtain rfl := Option.some.inj (Except.ok.inj h)
            refine ⟨fun c => ?_, rfl, rfl⟩
            have hc : c.val < a.size := by omega
            rw [arrayByte_of_some hb hc]
            exact congrArg UInt8.toNat (Table.get_map (Vector.mk a hsize) Int8.toUInt8 c)
      · cases h

/-- The number of a cell is the one that the section is decoded by. -/
theorem legacyId_eq (h : layers? m = .ok (some l)) (c : Cell) :
    l.legacyId c = .ofNumber (cellNumber (.compound m) c) := by
  obtain ⟨hids, hdata, hadd⟩ := layers?_eq_some h
  have hnumber : (l.legacyId c).number = cellNumber (.compound m) c := by
    rw [LegacyLayers.legacyId, LegacyId.number_decode, Nat.mod_eq_of_lt (l.add.get_lt c),
      Nat.mod_eq_of_lt (l.data.get_lt c), hids, get_nibbles hdata, get_nibbles hadd, cellNumber]
  have hlt : (l.legacyId c).data < 16 := Nat.mod_lt _ (by decide)
  rw [← hnumber, LegacyId.ofNumber_number hlt]

end Section

/-! ## the palette -/

/-- A palette takes each state where it first occurs. -/
theorem Palette.toList_insertAll (l : List BlockState) :
    (withAir.insertAll l).states.toList = (.air :: l).eraseDups := by
  induction l using List.reverseRecOn with
  | nil =>
    have hair : withAir.states = empty.states.push .air :=
      states_insert_of_notMem (by simp [empty])
    rw [List.eraseDups_cons, List.filter_nil, List.eraseDups_nil]
    show withAir.states.toList = _
    rw [hair]
    rfl
  | append_singleton l s ih =>
    have hinsert : withAir.insertAll (l ++ [s]) = (withAir.insertAll l).insert s := by
      rw [insertAll, List.foldl_append]
      rfl
    have hmem : s ∈ (withAir.insertAll l).states ↔ s ∈ .air :: l := by
      rw [mem_insertAll, withAir, mem_insert, List.mem_cons]
      simp [empty]
    rw [hinsert, ← List.cons_append, eraseDups_concat, ← ih]
    by_cases hs : s ∈ (withAir.insertAll l).states
    · rw [insert_of_mem hs, if_pos (hmem.1 hs)]
    · rw [states_insert_of_notMem hs, Array.toList_push, if_neg (mt hmem.2 hs)]

theorem DecodedCells.toList_decodedPalette (l : LegacyLayers) :
    (decodedPalette l).states.toList =
      .air :: ((Cell.all.map l.state).filter fun s => s != .air).eraseDups := by
  rw [decodedPalette, Palette.toList_insertAll, List.eraseDups_cons]
  rfl

/-! ## the cells that wait -/

namespace LegacyLayers

variable (l : LegacyLayers) {b : Nat} {cells : List Cell}

/-- Ascending cells are settled by which they are. -/
theorem cellsOf_eq_iff :
    l.cellsOf b = cells ↔ (cells.Pairwise fun c e => c < e) ∧ ∀ c, c ∈ cells ↔ l.block c = b := by
  constructor
  · rintro rfl
    exact ⟨l.pairwise_cellsOf b, fun c => l.mem_cellsOf⟩
  · rintro ⟨hascending, hcells⟩
    refine (l.pairwise_cellsOf b).eq_of_mem_iff hascending fun c => ?_
    rw [l.mem_cellsOf, hcells]

/-- **A group waits for each block id that has a rule and occurs**, and no other does. -/
theorem mem_pending_iff :
    (b, cells) ∈ l.pending ↔ (Rule.ofBlock? b).isSome ∧ cells ≠ [] ∧
      (cells.Pairwise fun c e => c < e) ∧ ∀ c, c ∈ cells ↔ l.block c = b := by
  rw [← l.cellsOf_eq_iff, Rule.ofBlock?_isSome_iff, l.mem_pending]
  exact and_congr_right fun _ => and_comm

end LegacyLayers

/-! ## one section -/

/-- What a section is whose cells have these numbers: the states of the numbers, a palette with air
in front and each other state where it first occurs, and for each block id that has a rule and
occurs the ascending cells that have it. -/
structure DecodedBy (number : Cell → Nat) (s : Section) : Prop where
  block_eq : ∀ c, s.block c = Legacy.state (.ofNumber (number c))
  palette_eq : ∃ p, s.palette? = some p ∧ p.states.toList =
    .air :: ((Cell.all.map fun c => Legacy.state (.ofNumber (number c))).filter
      fun b => b != .air).eraseDups
  pending_ascending : s.pending.Pairwise fun p q => p.1 < q.1
  mem_pending_iff : ∀ b cells, (b, cells) ∈ s.pending ↔
    (Rule.ofBlock? b).isSome ∧ cells ≠ [] ∧ (cells.Pairwise fun c e => c < e) ∧
      ∀ c, c ∈ cells ↔ number c / 16 = b

/-- **A section with block data is decoded by the numbers in its arrays**, and by nothing else. -/
theorem decodedBy_cellNumber {t : Tag} {s : Section} (h : Section.ofTag? t = .ok s)
    (hblocks : (t.get? "Blocks").isSome) : DecodedBy (cellNumber t) s.upgrade.1 := by
  obtain ⟨m, y, rfl, -, ⟨hnone, -⟩ | ⟨l, hl, rfl⟩⟩ := Section.ofTag?_eq_ok_iff.1 h
  · have hsome := Section.isSome_layers? hnone
    rw [← Tag.get?_compound, hblocks] at hsome
    cases hsome
  · have hid := Section.legacyId_eq hl
    have hstate : l.state = fun c => Legacy.state (.ofNumber (cellNumber (.compound m) c)) := by
      funext c
      rw [LegacyLayers.state, hid]
    have hblock : ∀ c, l.block c = cellNumber (.compound m) c / 16 := fun c => by
      rw [LegacyLayers.block, hid]
      rfl
    have hpending : (Section.upgrade ⟨y, Section.withoutArrays m, .legacy l⟩).1.pending =
        l.pending := DecodedCells.waiting_decode l
    refine ⟨fun c => ?_, ⟨DecodedCells.decodedPalette l, ?_, ?_⟩, ?_, fun b cells => ?_⟩
    · have hc := DecodedCells.block_decode l c
      rw [hstate] at hc
      exact hc
    · exact congrArg some (DecodedCells.palette_decode l)
    · rw [DecodedCells.toList_decodedPalette, hstate]
    · rw [hpending]
      exact l.pairwise_pending
    · rw [hpending, l.mem_pending_iff]
      simp only [hblock]

theorem arrayByte_of_vector {t : Tag} {key : String} {k : Nat} {v : Vector Int8 k}
    (h : t.get? key = some (.byteArray v.toArray)) (n : Fin k) :
    arrayByte t key n.val = ((v.get n).toInt % 256).toNat := by
  have hn : n.val < v.toArray.size := by
    rw [v.size_toArray]
    exact n.isLt
  rw [arrayByte, h, Option.bind_some, Tag.byteArray?, Option.bind_some,
    Array.getElem?_eq_getElem hn]
  rfl

/-- a section that has all three arrays -/
def sectionWithAll (y : Fin 16) (ids : Vector Int8 4096) (data add : Vector Int8 2048) : Tag :=
  .compound [("Add", .byteArray add.toArray), ("Blocks", .byteArray ids.toArray),
    ("Data", .byteArray data.toArray), ("Y", .byte (Int8.ofNat y.val))]

theorem exists_ofTag?_sectionWithAll (y : Fin 16) (ids : Vector Int8 4096)
    (data add : Vector Int8 2048) :
    ∃ s, Section.ofTag? (sectionWithAll y ids data add) = .ok s := by
  have hlayers := Section.layers?_of_get? (m := [("Add", .byteArray add.toArray),
    ("Blocks", .byteArray ids.toArray), ("Data", .byteArray data.toArray),
    ("Y", .byte (Int8.ofNat y.val))]) rfl (Section.nibbles?_of_get? rfl)
      (Section.nibbles?_of_get? rfl)
  exact ⟨_, Section.ofTag?_eq_ok_iff.2 ⟨_, y, rfl, Chunk.y?_of_get? rfl, .inr ⟨_, hlayers, rfl⟩⟩⟩

/-- the half of a byte that an even cell reads, or an odd one -/
def halfByte (b : Int8) (c : Cell) : Nat :=
  if c.val % 2 = 0 then (b.toInt % 256).toNat % 16 else (b.toInt % 256).toNat / 16

theorem arrayNibble_of_constant {t : Tag} {key : String} {b : Int8}
    (h : t.get? key = some (.byteArray (Vector.ofFn fun _ : Fin 2048 => b).toArray)) (c : Cell) :
    arrayNibble t key c = halfByte b c := by
  have hbyte := arrayByte_of_vector h ⟨c.val / 2, by omega⟩
  rw [Table.get_ofFn] at hbyte
  rw [arrayNibble, hbyte, halfByte]

/-- The number of a cell when all bytes of `Data` are the same, and all of `Add`. -/
theorem cellNumber_sectionWithAll (y : Fin 16) (ids : Vector Int8 4096) (data add : Int8)
    (c : Cell) :
    cellNumber (sectionWithAll y ids (Vector.ofFn fun _ => data) (Vector.ofFn fun _ => add)) c =
      4096 * halfByte add c + 16 * ((ids.get c).toInt % 256).toNat + halfByte data c := by
  rw [cellNumber, arrayNibble_of_constant rfl, arrayNibble_of_constant rfl,
    arrayByte_of_vector rfl c]

/-- a section of one byte for all cells, which is that of doors; its odd cells are upper halves,
and its even cells have block ids beyond 255 -/
def oddDoors (y : Fin 16) : Tag :=
  sectionWithAll y (Vector.ofFn fun _ => 64) (Vector.ofFn fun _ => -128) (Vector.ofFn fun _ => 1)

theorem cellNumber_oddDoors (y : Fin 16) (c : Cell) :
    cellNumber (oddDoors y) c = if c.val % 2 = 0 then 16 * 320 else 16 * 64 + 8 := by
  rw [oddDoors, cellNumber_sectionWithAll, Table.get_ofFn, halfByte, halfByte]
  split
  · rfl
  · rfl

/-- Only the odd cells are doors, and only they wait for the rule of doors. -/
theorem decodedBy_cellNumber_oddDoors :
    ∃ s, Section.ofTag? (oddDoors 3) = .ok s ∧ ((oddDoors 3).get? "Blocks").isSome ∧
      s.upgrade.1.block 0 = Legacy.state ⟨320, 0⟩ ∧ s.upgrade.1.block 1 = Legacy.state ⟨64, 8⟩ ∧
      (64, Cell.all.filter fun c => c.val % 2 = 1) ∈ s.upgrade.1.pending := by
  obtain ⟨s, hs⟩ : ∃ s, Section.ofTag? (oddDoors 3) = .ok s := exists_ofTag?_sectionWithAll 3 _ _ _
  have hdecoded := decodedBy_cellNumber hs rfl
  refine ⟨s, hs, rfl, ?_, ?_, (hdecoded.mem_pending_iff _ _).2 ⟨rfl, ?_, ?_, fun c => ?_⟩⟩
  · rw [hdecoded.block_eq, cellNumber_oddDoors]
    rfl
  · rw [hdecoded.block_eq, cellNumber_oddDoors]
    rfl
  · exact List.ne_nil_of_mem (List.mem_filter.2 ⟨Cell.mem_all 1, rfl⟩)
  · exact (List.pairwise_lt_finRange 4096).sublist List.filter_sublist
  · rw [List.mem_filter, decide_eq_true_eq, and_iff_right (Cell.mem_all c), cellNumber_oddDoors]
    split
    · omega
    · omega

end Flattening
