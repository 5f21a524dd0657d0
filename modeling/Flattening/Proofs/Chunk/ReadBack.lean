import Flattening.Proofs.Chunk.Written

/-!
# The sections of a written chunk are read back

From the legacy arrays of a level to the packed cells of its flattened form and back again.

* `ReadsBack`            what the tag of a section gives back;
* `reads_back_of_get`    the tag written for decoded cells gives back their states;
* `sections_read_back`   every level that is read is written, and each of its sections with
  block data is read back from what was written.
-/

namespace Flattening.Chunk

/-- The tag `e` is read as the section `f`, which has the states of section `y` in a palette
without repetition that starts with air, packed at the least width. -/
structure ReadsBack (c : Chunk) (y : Fin 16) (e : Tag) (f : FlatSection) : Prop where
  ofTag?_eq : FlatSection.ofTag? e = .ok f
  block_eq : ∀ cell : Cell, f.block cell.val = .ok (c.block (.of y cell))
  air_first : f.palette[0]? = some .air
  nodup : f.palette.toList.Nodup
  words_eq : ∃ words w, e.get? "BlockStates" = some (.longArray words) ∧ words.size = 64 * w ∧
    IsLeast {w | 4 ≤ w ∧ f.palette.size ≤ 2 ^ w} w

theorem height_inj {y z : Fin 16} : UInt8.ofNat y.val = UInt8.ofNat z.val ↔ y = z := by
  constructor
  · intro h
    have h' := congrArg UInt8.toNat h
    have h1 := y.isLt
    have h2 := z.isLt
    rw [UInt8.toNat_ofNat_of_lt' (by show y.val < 256; omega),
      UInt8.toNat_ofNat_of_lt' (by show z.val < 256; omega)] at h'
    exact Fin.ext h'
  · rintro rfl
    rfl

theorem block_of_get {c : Chunk} {y : Fin 16} {s : Section} (hs : c.sections.get y = some s)
    (cell : Cell) : c.block (.of y cell) = s.block cell := by
  rw [block, ColumnCell.sectionY_of, ColumnCell.cell_of, hs]

theorem reads_back_of_get {c : Chunk} (h : c.Writable) {y : Fin 16} {s : Section}
    (hs : c.sections.get y = some s) {d : DecodedCells} (hd : s.decoded? = some d) {e : Tag}
    (he : sectionTag s = .ok e) : ∃ f, ReadsBack c y e f := by
  have hb := h.bounded y s d hs hd
  obtain ⟨f, hf, hsound, -, hpalette, hblock⟩ := sectionTag_of_decoded hd hb
  rw [hf, Except.ok.injEq] at he
  subst he
  refine ⟨f, FlatSection.ofTag?_toTag hsound s.fields, fun cell => ?_, ?_, ?_, ?_⟩
  · rw [block_of_get hs, Section.block, hd]
    exact hblock cell
  · rw [hpalette]
    exact hb.air_first
  · rw [hpalette]
    exact d.palette.nodup
  · refine ⟨_, f.cells.bits, FlatSection.get?_cells_toTag f s.fields, ?_, ?_⟩
    · rw [Array.size_map, f.cells.size_words, hsound.length_eq, wordsFor_section]
    · rw [hsound.bits_eq]
      exact isLeast_bitsForPalette f.palette.size

/-- A section with block data stays decoded through the rules. -/
theorem Decoding.exists_cells {level : Tag} {log log' : Array Event} {c : Chunk}
    (d : Decoding level log log' c) {y : Fin 16} {t : Tag} (ht : LastListed d.tags y t)
    (hb : (t.get? "Blocks").isSome) (log₁ : Array Event) :
    ∃ s cells, (c.settle log₁).1.sections.get y = some s ∧ s.decoded? = some cells := by
  obtain ⟨s₀, hs₀⟩ := ofTag?_of_place d.placed_eq t (mem_of_lastListed ht)
  have hget := d.get_sections_iff.2 ⟨t, s₀, ht, hs₀, rfl⟩
  have hsome : s₀.decode.decoded?.isSome := by
    obtain ⟨m, y', rfl, -, ⟨hl, -⟩ | ⟨l, -, rfl⟩⟩ := Section.ofTag?_eq_ok_iff.1 hs₀
    · have hn := Section.isSome_layers? hl
      rw [Tag.get?_compound, ← hn] at hb
      cases hb
    · rfl
  have hframe := map_frame_of_frame_eq (c.frame_settle log₁) y
  rw [hget, Option.map_some, Option.map_eq_some_iff] at hframe
  obtain ⟨s, hs, hsf⟩ := hframe
  have hdec : s.decoded?.isSome = s₀.decode.decoded?.isSome :=
    congrArg SectionFrame.isDecoded hsf
  rw [hsome, Option.isSome_iff_exists] at hdec
  obtain ⟨cells, hcells⟩ := hdec
  exact ⟨s, cells, hs, hcells⟩

/-- **Read-back of a whole chunk.**  A level that is read can be written; of every section with
block data, the last one listed for its height, one tag is written, and that tag gives back the
state of each cell. -/
theorem sections_read_back {level : Tag} {log log' : Array Event} {c : Chunk}
    (h : ofLevel level log = .ok c log') :
    ∃ tags out emitted, list? level "Sections" = .ok tags ∧ c.write = .ok out ∧
      out.get? "Sections" = some (.list emitted) ∧
      ∀ (y : Fin 16) (t : Tag), LastListed tags y t → (t.get? "Blocks").isSome →
        ∃ e f, emitted.filter (fun u => FlatSection.y? u == some (UInt8.ofNat y.val)) = [e] ∧
          ReadsBack c y e f := by
  obtain ⟨c₀, mid, hc₀, rfl, -⟩ := ofLevel_eq_ok_iff.1 h
  obtain ⟨d⟩ := decode_eq_ok_iff.1 hc₀
  have hw := d.writable_settle mid
  obtain ⟨emitted, hwrite, hall⟩ := hw.exists_write
  refine ⟨d.tags, _, emitted, d.tags_eq, hwrite, get?_sections_entriesWith _ emitted, ?_⟩
  intro y t ht hb
  obtain ⟨s, cells, hs, hcells⟩ := d.exists_cells ht hb mid
  -- the written tags go with the sections one by one, so filtering both by height pairs them up
  have hfilter : List.Forall₂ (fun s e => sectionTag s = .ok e ∧
      FlatSection.y? e = some (UInt8.ofNat s.y.val))
      ((c₀.settle mid).1.kept.filter fun s => s.y == y)
      (emitted.filter fun u => FlatSection.y? u == some (UInt8.ofNat y.val)) := by
    refine List.rel_filter ?_ hall
    rintro s' e ⟨-, hy⟩
    show (s'.y == y) = true ↔ (FlatSection.y? e == some (UInt8.ofNat y.val)) = true
    rw [beq_iff_eq, beq_iff_eq, hy, Option.some.injEq, height_inj]
  rw [hw.filter_kept hs, List.forall₂_cons_left_iff] at hfilter
  obtain ⟨e, rest, ⟨he, -⟩, hnil, hl⟩ := hfilter
  rw [List.forall₂_nil_left_iff] at hnil
  subst hnil
  obtain ⟨f, hf⟩ := reads_back_of_get hw hs hcells he
  exact ⟨e, f, hl, hf⟩

/-- ids of a section whose lower half is note blocks and whose upper half is pumpkins -/
def halvedIds : Vector Int8 4096 := Vector.ofFn fun c => if c.val < 2048 then 25 else 86

theorem sections_read_back_halved :
    ∃ c log', ofLevel (levelOf [sectionOf 3 halvedIds, sectionOf 3 halvedIds]) #[] = .ok c log' ∧
    ∃ tags out emitted,
      list? (levelOf [sectionOf 3 halvedIds, sectionOf 3 halvedIds]) "Sections" = .ok tags ∧
      c.write = .ok out ∧ out.get? "Sections" = some (.list emitted) ∧
      ∀ (y : Fin 16) (t : Tag), LastListed tags y t → (t.get? "Blocks").isSome →
        ∃ e f, emitted.filter (fun u => FlatSection.y? u == some (UInt8.ofNat y.val)) = [e] ∧
          ReadsBack c y e f := by
  have hread : ∃ s, Section.ofTag? (sectionOf 3 halvedIds) = .ok s := ⟨_, ofTag?_sectionOf 3 _⟩
  obtain ⟨c, log', h⟩ := exists_ofLevel_levelOf (ofTag?_of_mem_pair hread hread) #[]
  exact ⟨_, _, h, sections_read_back h⟩

end Flattening.Chunk
