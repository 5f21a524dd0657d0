import Flattening.Proofs.Chunk.Listed
import Flattening.Proofs.Chunk.ReadBack

/-!
# The shape of a written level

A level is taken apart and put together again.  Of its own fields three are written, and all
others are carried over.  For each height that is listed one section is written, from below: the
last one listed, as it was or with its arrays replaced.  Every other section was reported.

* `Rebuilt`               what becomes of the section that counts;
* `Decoding.exists_rebuilt`   one section is written for each listed height;
* `get?_entriesWith_of_ne`    the other fields are carried over;
* `Decoding.duplicates_settle`   and those that are not written were reported;
* `written_shape`         all this of any level.
-/

namespace Flattening

/-- The event says that a section lost its place to another one. -/
def Event.isDuplicateSection : Event → Bool
  | .duplicateSection _ _ _ => true
  | _ => false

namespace Chunk

/-- The tag `e` written for height `y` is the flattened section `t`: its arrays are gone, its
height, its palette and its cells are written, and its other fields are those of `t`. -/
structure Flattened (c : Chunk) (y : Fin 16) (t e : Tag) (f : FlatSection) : Prop where
  reads_back : ReadsBack c y e f
  height : e.get? "Y" = some (.byte (Int8.ofNat y.val))
  palette : e.get? "Palette" = some f.paletteTag
  cells : e.get? "BlockStates" = some f.cellsTag
  dropped : ∀ key ∈ ["Blocks", "Data", "Add"], e.get? key = none
  carried : ∀ key ∉ ["Blocks", "Data", "Add", "Y", "Palette", "BlockStates"],
    e.get? key = t.get? key

/-- A section without block data is written as it was, any other one flattened. -/
def Rebuilt (c : Chunk) (y : Fin 16) (t e : Tag) : Prop :=
  (t.get? "Blocks" = none ∧ e = t) ∨ (t.get? "Blocks").isSome ∧ ∃ f, Flattened c y t e f

theorem Rebuilt.eq_of_bare {c : Chunk} {y : Fin 16} {t e : Tag} (h : Rebuilt c y t e)
    (hb : t.get? "Blocks" = none) : e = t := by
  obtain ⟨-, he⟩ | ⟨hsome, -⟩ := h
  · exact he
  · rw [hb] at hsome
    cases hsome

theorem Rebuilt.exists_flattened {c : Chunk} {y : Fin 16} {t e : Tag} (h : Rebuilt c y t e)
    (hb : (t.get? "Blocks").isSome) : ∃ f, Flattened c y t e f := by
  obtain ⟨hnone, -⟩ | ⟨-, hf⟩ := h
  · rw [hnone] at hb
    cases hb
  · exact hf

/-- the heights that are listed, from below -/
def listedHeights (tags : List Tag) : List (Fin 16) :=
  (List.finRange 16).filter fun y => (lastListed? tags y).isSome

theorem mem_listedHeights {tags : List Tag} {y : Fin 16} :
    y ∈ listedHeights tags ↔ ∃ t ∈ tags, Section.y? t = .ok y := by
  rw [listedHeights, List.mem_filter, ← lastListed?_isSome_iff, and_iff_right (List.mem_finRange y)]

theorem pairwise_listedHeights (tags : List Tag) : (listedHeights tags).Pairwise (· < ·) :=
  (List.pairwise_lt_finRange 16).sublist List.filter_sublist

theorem forall₂_filter_isSome {α β γ : Type} {R : β → γ → Prop} {f : α → Option β} {l : List α}
    {out : List γ} (h : List.Forall₂ R (l.filterMap f) out) :
    List.Forall₂ (fun a c => ∃ b, f a = some b ∧ R b c) (l.filter fun a => (f a).isSome) out := by
  induction l generalizing out with
  | nil => exact List.forall₂_nil_left_iff.2 (List.forall₂_nil_left_iff.1 h)
  | cons a l ih =>
    cases ha : f a with
    | none =>
      rw [List.filterMap_cons_none ha] at h
      rw [List.filter_cons_of_neg (by simp [ha])]
      exact ih h
    | some b =>
      rw [List.filterMap_cons_some ha] at h
      obtain ⟨c, rest, hc, hrest, rfl⟩ := List.forall₂_cons_left_iff.1 h
      rw [List.filter_cons_of_pos (by simp [ha])]
      exact .cons ⟨b, ha, hc⟩ (ih hrest)

/-! ## one section -/

theorem get?_withoutArrays (key : String) (m : Entries String Tag) :
    Entries.get? key (Section.withoutArrays m) =
      if key ∈ ["Blocks", "Data", "Add"] then none else Entries.get? key m := by
  rw [Section.withoutArrays]
  split
  · rename_i h
    simp only [List.mem_cons, List.not_mem_nil, or_false] at h
    rcases h with rfl | rfl | rfl
    · rw [Entries.get?_erase_ne (by decide), Entries.get?_erase_ne (by decide),
        Entries.get?_erase_self]
    · rw [Entries.get?_erase_ne (by decide), Entries.get?_erase_self]
    · rw [Entries.get?_erase_self]
  · rename_i h
    simp only [List.mem_cons, List.not_mem_nil, or_false, not_or] at h
    rw [Entries.get?_erase_ne h.2.2, Entries.get?_erase_ne h.2.1, Entries.get?_erase_ne h.1]

/-- The section written for decoded cells has the fields of the listed one, without its arrays. -/
theorem flattened_of_get {c : Chunk} (h : c.Writable) {y : Fin 16} {s : Section}
    (hs : c.sections.get y = some s) {d : DecodedCells} (hd : s.decoded? = some d)
    {m : Entries String Tag} (hm : s.fields = Section.withoutArrays m) {e : Tag}
    (he : sectionTag s = .ok e) : ∃ f, Flattened c y (.compound m) e f := by
  obtain ⟨f, hf⟩ := reads_back_of_get h hs hd he
  obtain ⟨f', hf', hsound, hy, -, -⟩ := sectionTag_of_decoded hd (h.bounded y s d hs hd)
  -- what is read back is the section that was written
  obtain rfl : e = f'.toTag s.fields := Except.ok.inj (he.symm.trans hf')
  obtain rfl : f = f' :=
    Except.ok.inj (hf.ofTag?_eq.symm.trans (FlatSection.ofTag?_toTag hsound s.fields))
  refine ⟨f, hf, ?_, FlatSection.get?_palette_toTag f s.fields,
    FlatSection.get?_cells_toTag f s.fields, fun key hkey => ?_, fun key hkey => ?_⟩
  · rw [FlatSection.get?_y_toTag, hy, h.y_eq y s hs]
    rfl
  · have hne : key ≠ "Y" ∧ key ≠ "Palette" ∧ key ≠ "BlockStates" := by
      revert key
      decide
    rw [FlatSection.get?_toTag_of_ne hne.1 hne.2.1 hne.2.2, hm, get?_withoutArrays, if_pos hkey]
  · simp only [List.mem_cons, List.not_mem_nil, or_false, not_or] at hkey
    obtain ⟨hblocks, hdata, hadd, hy, hpalette, hcells⟩ := hkey
    rw [FlatSection.get?_toTag_of_ne hy hpalette hcells, hm, get?_withoutArrays, if_neg,
      Tag.get?_compound]
    simp [hblocks, hdata, hadd]

/-! ## the other fields -/

theorem get?_entriesWith_of_ne {key : String}
    (h : key ∉ ["Sections", "TileEntities", "UpgradeData"]) (c : Chunk) (tags : List Tag) :
    Entries.get? key (c.entriesWith tags) = Entries.get? key c.fields := by
  simp only [List.mem_cons, List.not_mem_nil, or_false, not_or] at h
  obtain ⟨hsections, hrecords, hdata⟩ := h
  rw [entriesWith, Entries.get?_insert_ne hdata]
  split
  · rw [Entries.get?_insert_ne hsections]
  · rw [Entries.get?_insert_ne hrecords, Entries.get?_insert_ne hsections]

/-! ## what is reported -/

/-- A place that is filled has one section more, unless it had one. -/
theorem length_set (v : Vector (Option Section) 16) (y : Fin 16) (s : Section) :
    ((v.set y.val (some s) y.isLt).toList.filterMap id).length +
        (if (v.get y).isSome then 1 else 0) = (v.toList.filterMap id).length + 1 := by
  have hy : y.val < v.toList.length := by
    rw [Vector.length_toList]
    exact y.isLt
  have hget : v.toList[y.val] = v.get y := Vector.getElem_toList hy
  have hle := List.boole_getElem_le_countP (p := Option.isSome) hy
  rw [hget] at hle
  rw [List.length_filterMap_eq_countP, List.length_filterMap_eq_countP, Vector.toList_set]
  show (v.toList.set y.val (some s)).countP Option.isSome + _ = v.toList.countP Option.isSome + 1
  rw [List.countP_set hy, hget, Option.isSome_some, if_pos rfl]
  omega

/-- The sections that are placed and those that are reported make up the list. -/
theorem duplicates_place {x z : Int32} {index : Nat} {tags : List Tag}
    {out placed : Vector (Option Section) 16} {log log' : Array Event}
    (h : place x z index tags out log = .ok placed log') :
    ∃ events, log' = log ++ events ∧ tags.length + (out.toList.filterMap id).length =
      (placed.toList.filterMap id).length + events.countP Event.isDuplicateSection := by
  induction tags generalizing index out log with
  | nil =>
    obtain ⟨rfl, rfl⟩ := Attempt.pure_eq_ok.1 h
    exact ⟨#[], Array.append_empty.symm, Nat.zero_add _⟩
  | cons t tags ih =>
    obtain ⟨s, -, hr⟩ := place_cons_eq_ok_iff.1 h
    obtain ⟨events, hlog, htotal⟩ := ih hr
    have hset := length_set out s.y s
    rw [List.length_cons]
    split at hlog
    · rename_i hd
      rw [if_pos hd] at hset
      refine ⟨#[.duplicateSection s.y x z] ++ events, ?_, ?_⟩
      · rw [hlog, Array.push_eq_append, Array.append_assoc]
      · have hone : #[Event.duplicateSection s.y x z].countP Event.isDuplicateSection = 1 := rfl
        rw [Array.countP_append, hone]
        omega
    · rename_i hd
      rw [if_neg hd] at hset
      exact ⟨events, hlog, by omega⟩

/-- Reading the block entities reports none of the sections. -/
theorem reports_ofRecords (x z : Int32) (records : List Tag) :
    Attempt.Reports (fun e => e.isDuplicateSection = false)
      (BlockEntities.ofRecords x z records) := by
  refine Attempt.reports_foldlM (fun b t => ?_) records BlockEntities.empty
  unfold BlockEntities.addRecord
  by_cases ht : t.entries?.isNone
  · rw [if_pos ht]
    exact Attempt.reports_throw_bind _ _
  · rw [if_neg ht]
    split
    · exact Attempt.reports_bind (Attempt.reports_report (by rfl)) fun _ => Attempt.reports_pure _
    · split
      · exact Attempt.reports_bind (Attempt.reports_report (by rfl)) fun _ =>
          Attempt.reports_pure _
      · unfold BlockEntities.insertReporting
        split
        · exact Attempt.reports_bind (Attempt.reports_report (by rfl)) fun _ =>
            Attempt.reports_pure _
        · exact Attempt.reports_pure _

namespace Decoding

variable {level : Tag} {log log' : Array Event} {c : Chunk}

/-- The section that is left at a height is written as the listed one, rebuilt. -/
theorem rebuilt_of_get (d : Decoding level log log' c) {y : Fin 16} {s : Section}
    (hs : (c.settle log').1.sections.get y = some s) {e : Tag} (he : sectionTag s = .ok e) :
    ∃ t, LastListed d.tags y t ∧ Rebuilt (c.settle log').1 y t e := by
  obtain ⟨s₁, hs₁, hframe⟩ := exists_get_of_frame_eq (c.frame_settle log') hs
  obtain ⟨t, s₀, ht, hs₀, rfl⟩ := d.get_sections_iff.1 hs₁
  have hfields : s₀.fields = s.fields :=
    s₀.fields_decode.symm.trans (congrArg SectionFrame.fields hframe)
  have hdecoded : s₀.decode.decoded?.isSome = s.decoded?.isSome :=
    congrArg SectionFrame.isDecoded hframe
  refine ⟨t, ht, ?_⟩
  -- whether it is decoded and which fields it has is in the frame, which the rules keep
  obtain ⟨m, y', rfl, -, ⟨hl, rfl⟩ | ⟨l, hl, rfl⟩⟩ := Section.ofTag?_eq_ok_iff.1 hs₀
  · have hblocks := Section.isSome_layers? hl
    have hempty := Option.not_isSome_iff_eq_none.1 (Bool.eq_false_iff.1 hblocks.symm)
    have hnone := Option.not_isSome_iff_eq_none.1 (Bool.eq_false_iff.1 hdecoded.symm)
    rw [sectionTag_of_bare hnone, ← hfields] at he
    exact .inl ⟨hempty, (Except.ok.inj he).symm⟩
  · have hblocks := Section.isSome_layers? hl
    obtain ⟨cells, hcells⟩ := Option.isSome_iff_exists.1 hdecoded.symm
    exact .inr ⟨hblocks.symm, flattened_of_get (d.writable_settle log') hs hcells hfields.symm he⟩

/-- **One section is written for each listed height**, from below. -/
theorem exists_rebuilt (d : Decoding level log log' c) :
    ∃ emitted, (c.settle log').1.write = .ok (.compound ((c.settle log').1.entriesWith emitted)) ∧
      emitted.length = (c.settle log').1.kept.length ∧
      List.Forall₂ (fun y e => FlatSection.y? e = some (UInt8.ofNat y.val) ∧
        ∃ t, LastListed d.tags y t ∧ Rebuilt (c.settle log').1 y t e)
        (listedHeights d.tags) emitted := by
  have hw := d.writable_settle log'
  obtain ⟨emitted, hwrite, hall⟩ := hw.exists_write
  refine ⟨emitted, hwrite, hall.length_eq.symm, ?_⟩
  rw [kept_eq] at hall
  have hheights : listedHeights d.tags =
      (List.finRange 16).filter fun y => ((c.settle log').1.sections.get y).isSome :=
    List.filter_congr fun y _ => Bool.eq_iff_iff.2
      (lastListed?_isSome_iff.trans (d.isSome_get_settle log' y).symm)
  rw [hheights]
  refine (forall₂_filter_isSome hall).imp fun y e => ?_
  rintro ⟨s, hs, he, hy⟩
  rw [hw.y_eq y s hs] at hy
  exact ⟨hy, d.rebuilt_of_get hs he⟩

theorem get?_fields (d : Decoding level log log' c) {key : String}
    (h : key ∉ ["Sections", "TileEntities", "UpgradeData"]) :
    Entries.get? key c.fields = level.get? key := by
  simp only [List.mem_cons, List.not_mem_nil, or_false, not_or] at h
  have hlevel : level.get? key = (Tag.compound d.all).get? key :=
    congrArg (fun t => t.get? key) d.level_eq
  rw [hlevel, d.fields_eq, Entries.get?_erase_ne h.2.1, Entries.get?_erase_ne h.1,
    Tag.get?_compound]

/-- A field that is not written anew is the one that was read. -/
theorem get?_entriesWith_settle (d : Decoding level log log' c) {key : String}
    (h : key ∉ ["Sections", "TileEntities", "UpgradeData"]) (emitted : List Tag) :
    Entries.get? key ((c.settle log').1.entriesWith emitted) = level.get? key := by
  rw [get?_entriesWith_of_ne h, fields_settle, d.get?_fields h]

theorem length_kept_settle (d : Decoding level log log' c) :
    (c.settle log').1.kept.length = (d.placed.toList.filterMap id).length := by
  rw [kept_eq, present_eq, List.length_filterMap_eq_countP, List.length_filterMap_eq_countP]
  refine List.countP_congr fun y _ => ?_
  have hsome := congrArg Option.isSome (map_frame_of_frame_eq (c.frame_settle log') y)
  rw [Option.isSome_map, Option.isSome_map, d.get_sections, Option.isSome_map] at hsome
  rw [hsome]

/-- The sections that are written and those that were reported make up the list. -/
theorem duplicates_settle (d : Decoding level log log' c) :
    ∃ events, (c.settle log').2 = log ++ events ∧
      d.tags.length = (c.settle log').1.kept.length +
        events.countP Event.isDuplicateSection := by
  obtain ⟨first, hfirst, hrecords⟩ := reports_ofRecords c.x c.z d.records _ _ _ d.entities_eq
  obtain ⟨second, hsecond, htotal⟩ := duplicates_place d.placed_eq
  have hnone : first.countP Event.isDuplicateSection = 0 :=
    Array.countP_eq_zero.2 fun e he => Bool.eq_false_iff.1 (hrecords e he)
  have hempty : ((Vector.replicate 16 (none : Option Section)).toList.filterMap id).length = 0 :=
    rfl
  obtain ⟨events, hlog, hcount⟩ := d.countP_settle Event.isDuplicateSection (fun _ _ _ => rfl)
    hfirst hsecond
  refine ⟨events, hlog, ?_⟩
  rw [hcount, hnone, d.length_kept_settle]
  omega

end Decoding

/-- What a written level has of the one it was read from: `tags` are the sections listed there,
`c` is its chunk, `out` what is written of it, and `events` what was reported on the way. -/
structure KeepsShape (level : Tag) (tags : List Tag) (c : Chunk) (out : Tag)
    (events : Array Event) : Prop where
  carried : ∀ key ∉ ["Sections", "TileEntities", "UpgradeData"], out.get? key = level.get? key
  sections : ∃ heights emitted, out.get? "Sections" = some (.list emitted) ∧
    heights.Pairwise (· < ·) ∧ (∀ y, y ∈ heights ↔ ∃ t ∈ tags, Section.y? t = .ok y) ∧
    List.Forall₂ (fun y e => FlatSection.y? e = some (UInt8.ofNat y.val) ∧
      ∃ t, LastListed tags y t ∧ Rebuilt c y t e) heights emitted ∧
    tags.length = emitted.length + events.countP Event.isDuplicateSection

/-- **A written level has the shape of the one that was read.**  All but three of its fields are
as they were, and one section is written for each height that is listed, from below: the last
one listed, unchanged or flattened.  The others were reported. -/
theorem written_shape {level : Tag} {log log' : Array Event} {c : Chunk}
    (h : ofLevel level log = .ok c log') :
    ∃ tags out events, list? level "Sections" = .ok tags ∧ c.write = .ok out ∧
      log' = log ++ events ∧ KeepsShape level tags c out events := by
  obtain ⟨c₀, mid, hc₀, rfl, rfl⟩ := ofLevel_eq_ok_iff.1 h
  obtain ⟨d⟩ := decode_eq_ok_iff.1 hc₀
  obtain ⟨emitted, hwrite, hlength, hrebuilt⟩ := d.exists_rebuilt
  obtain ⟨events, hlog, htotal⟩ := d.duplicates_settle
  refine ⟨d.tags, _, events.push (c₀.settle mid).1.summary, d.tags_eq, hwrite, ?_, ?_, ?_⟩
  · rw [hlog, Array.push_append]
  · exact fun key hkey => d.get?_entriesWith_settle hkey emitted
  · refine ⟨listedHeights d.tags, emitted, get?_sections_entriesWith _ emitted,
      pairwise_listedHeights d.tags, fun y => mem_listedHeights, hrebuilt, ?_⟩
    have hsummary : (c₀.settle mid).1.summary.isDuplicateSection = false := rfl
    rw [Array.countP_push, hsummary, htotal, hlength]
    rfl

/-! ## three sections -/

/-- a section without block data but with light -/
def litSection : Tag := .compound [("SkyLight", .byteArray #[1]), ("Y", .byte 2)]

/-- one with both -/
def brightSection (ids : Vector Int8 4096) : Tag :=
  .compound [("Blocks", .byteArray ids.toArray), ("SkyLight", .byteArray #[2]), ("Y", .byte 15)]

/-- three sections, of which the first gives way to the last and the other has no blocks -/
def overlaidSections : List Tag :=
  [sectionOf (Fin.last 15) halvedIds, litSection, brightSection halvedIds]

def overlaidLevel : Tag :=
  .compound [("Biomes", .byteArray #[4]), ("Sections", .list overlaidSections)]

theorem y?_litSection : Section.y? litSection = .ok 2 := rfl

theorem y?_brightSection (ids : Vector Int8 4096) : Section.y? (brightSection ids) = .ok 15 :=
  y?_of_get? rfl

theorem exists_ofTag?_brightSection (ids : Vector Int8 4096) :
    ∃ s, Section.ofTag? (brightSection ids) = .ok s := by
  have hlayers := Section.layers?_of_get? (m := [("Blocks", .byteArray ids.toArray),
    ("SkyLight", .byteArray #[2]), ("Y", .byte 15)]) rfl rfl rfl
  exact ⟨_, Section.ofTag?_eq_ok_iff.2
    ⟨_, 15, rfl, y?_brightSection ids, .inr ⟨_, hlayers, rfl⟩⟩⟩

theorem exists_ofLevel_overlaid : ∃ c log', ofLevel overlaidLevel #[] = .ok c log' := by
  have hread : ∀ t ∈ overlaidSections, ∃ s, Section.ofTag? t = .ok s := by
    intro t ht
    simp only [overlaidSections, List.mem_cons, List.not_mem_nil, or_false] at ht
    obtain rfl | rfl | rfl := ht
    · exact ⟨_, ofTag?_sectionOf (Fin.last 15) halvedIds⟩
    · exact ⟨_, rfl⟩
    · exact exists_ofTag?_brightSection halvedIds
  have hx : coordinate? overlaidLevel "xPos" = .ok 0 := rfl
  have hz : coordinate? overlaidLevel "zPos" = .ok 0 := rfl
  have hrecords : list? overlaidLevel "TileEntities" = .ok [] := rfl
  have htags : list? overlaidLevel "Sections" = .ok overlaidSections := rfl
  exact exists_ofLevel_of_decode (exists_decode rfl hx hz hrecords rfl htags hread)

theorem lastListed_litSection : LastListed overlaidSections 2 litSection := by
  refine ⟨[sectionOf (Fin.last 15) halvedIds], [brightSection halvedIds], rfl, y?_litSection,
    fun u hu h => ?_⟩
  rw [List.mem_singleton.1 hu, y?_brightSection] at h
  cases h

theorem lastListed_brightSection : LastListed overlaidSections 15 (brightSection halvedIds) :=
  ⟨[sectionOf (Fin.last 15) halvedIds, litSection], [], rfl, y?_brightSection _,
    fun _ hu => absurd hu List.not_mem_nil⟩

/-- Two heights are listed. -/
theorem exists_listed_overlaid_iff {y : Fin 16} :
    (∃ t ∈ overlaidSections, Section.y? t = .ok y) ↔ y ∈ [(2 : Fin 16), 15] := by
  rw [List.mem_pair]
  constructor
  · rintro ⟨t, ht, hy⟩
    simp only [overlaidSections, List.mem_cons, List.not_mem_nil, or_false] at ht
    obtain rfl | rfl | rfl := ht
    · rw [y?_sectionOf, Except.ok.injEq] at hy
      exact .inr hy.symm
    · rw [y?_litSection, Except.ok.injEq] at hy
      exact .inl hy.symm
    · rw [y?_brightSection, Except.ok.injEq] at hy
      exact .inr hy.symm
  · rintro (rfl | rfl)
    · exact ⟨_, mem_of_lastListed lastListed_litSection, y?_litSection⟩
    · exact ⟨_, mem_of_lastListed lastListed_brightSection, y?_brightSection _⟩

/-- The section without block data is written as it was, and above it the last one listed with its
light and flattened; the field of the level that is no list of either kind is carried over. -/
theorem written_shape_overlaid :
    ∃ c log' out flat, ofLevel overlaidLevel #[] = .ok c log' ∧ c.write = .ok out ∧
      out.get? "Biomes" = some (.byteArray #[4]) ∧
      out.get? "Sections" = some (.list [litSection, flat]) ∧
      flat.get? "Y" = some (.byte 15) ∧ flat.get? "SkyLight" = some (.byteArray #[2]) ∧
      flat.get? "Blocks" = none ∧ (flat.get? "Palette").isSome ∧
      (flat.get? "BlockStates").isSome ∧ log'.countP Event.isDuplicateSection = 1 := by
  obtain ⟨c, log', h⟩ := exists_ofLevel_overlaid
  obtain ⟨tags, out, events, htags, hwrite, hlog, hcarried, heights, emitted, hsections, hascending,
    hheights, hrebuilt, htotal⟩ := written_shape h
  obtain rfl : overlaidSections = tags := Except.ok.inj htags
  obtain rfl : heights = [2, 15] := by
    refine hascending.eq_of_mem_iff (by decide) fun y => ?_
    rw [hheights, exists_listed_overlaid_iff]
  obtain ⟨lit, rest, ⟨-, t, ht, hlit⟩, hrest, rfl⟩ := List.forall₂_cons_left_iff.1 hrebuilt
  obtain ⟨flat, rest, ⟨-, u, hu, hflat⟩, hnil, rfl⟩ := List.forall₂_cons_left_iff.1 hrest
  obtain rfl := List.forall₂_nil_left_iff.1 hnil
  obtain rfl := lastListed_unique ht lastListed_litSection
  obtain rfl := lastListed_unique hu lastListed_brightSection
  obtain rfl : lit = litSection := hlit.eq_of_bare rfl
  obtain ⟨f, hf⟩ := hflat.exists_flattened rfl
  refine ⟨c, log', out, flat, h, hwrite, hcarried "Biomes" (by decide), hsections, hf.height,
    hf.carried "SkyLight" (by decide), hf.dropped "Blocks" (by decide), ?_, ?_, ?_⟩
  · rw [hf.palette]
    rfl
  · rw [hf.cells]
    rfl
  · rw [hlog, Array.empty_append]
    have hlength : overlaidSections.length = 3 := rfl
    simp only [List.length_cons, List.length_nil] at htotal
    omega

end Chunk

end Flattening
