import Flattening.Proofs.Chunk.Brief
import Flattening.Proofs.Chunk.Taken
import Flattening.Proofs.Chunk.Written

/-!
# A flattened level could have come out of a file

What is carried over from a readable level is readable, and what is new is of known shape: the
palettes hold brief states, the cells and the upgrade data are arrays of bounded length.  Below
the level there are at most six more levels of tags.

* `FlatSection.readable_toTag`   a flattened section;
* `UpgradeData.readable_toTag`   the upgrade data;
* `Decoding.readable_write`      the level itself.
-/

namespace Flattening

/-! ## sections -/

/-- **A flattened section is readable** when its palette is brief and its fields were readable. -/
theorem FlatSection.readable_toTag {f : FlatSection} {fields : Entries String Tag} {n : Nat}
    (hsound : f.Sound) (hsize : f.palette.size ≤ 2 ^ 31 - 1) (hbrief : ∀ b ∈ f.palette, b.Brief)
    (hfields : Tag.Readable (n + 5) (.compound fields)) :
    Tag.Readable (n + 5) (f.toTag fields) := by
  have hcells : Tag.Readable (n + 4) f.cellsTag := by
    refine Tag.readable_leaf rfl fun hlong => ?_
    have hwords : (f.cells.words.map UInt64.toInt64).size = 64 * f.cells.bits := by
      rw [Array.size_map, f.cells.size_words, hsound.length_eq, wordsFor_section]
    have hbits := f.cells.bits_le
    rw [cellsTag, Tag.Refused, hwords] at hlong
    omega
  have hpalette : Tag.Readable (n + 4) f.paletteTag := by
    refine Tag.readable_list_iff.2 ⟨?_, fun u hu v hv => ?_, fun u hu => ?_⟩
    · rwa [List.length_map, Array.length_toList]
    · obtain ⟨b, -, rfl⟩ := List.mem_map.1 hu
      obtain ⟨b', -, rfl⟩ := List.mem_map.1 hv
      rw [BlockState.kind_toTag, BlockState.kind_toTag]
    · obtain ⟨b, hb, rfl⟩ := List.mem_map.1 hu
      refine ⟨fun he => ?_, (hbrief b (Array.mem_toList_iff.1 hb)).readable_toTag n⟩
      have hk := b.kind_toTag
      rw [he] at hk
      cases hk
  have hy : Tag.Readable (n + 4) (.byte f.y.toInt8) := Tag.readable_leaf rfl not_false
  have hstates : Tag.Readable (n + 5) (.compound (Entries.insert "Palette" f.paletteTag
      (Entries.insert "Y" (.byte f.y.toInt8) fields))) :=
    (hfields.insert hy (by simp) (by decide)).insert hpalette (by simp [paletteTag]) (by decide)
  exact hstates.insert hcells (by simp [cellsTag]) (by decide)

theorem Section.readable_fields {t : Tag} {s : Section} {n : Nat}
    (ht : Tag.Readable (n + 1) t) (h : Section.ofTag? t = .ok s) :
    Tag.Readable (n + 1) (.compound s.fields) := by
  obtain ⟨m, y, rfl, -, ⟨-, rfl⟩ | ⟨l, -, rfl⟩⟩ := Section.ofTag?_eq_ok_iff.1 h
  · exact ht
  · exact ((ht.erase "Blocks").erase "Data").erase "Add"

/-! ## upgrade data -/

theorem LegacyLayers.length_deferred_le (l : LegacyLayers) : l.deferred.length ≤ 4096 := by
  have h1 := List.length_filter_le (fun c : Cell => (Sides.ofEdge c.x c.z).isEmpty) l.sensitive
  have h2 := List.length_filter_le (fun c => Legacy.isSensitive (l.block c)) Cell.all
  rw [Cell.all, List.length_finRange] at h2
  exact Nat.le_trans h1 h2

/-- **Upgrade data are readable** when no list of cells is longer than an array can be. -/
theorem UpgradeData.readable_toTag {sides : Sides} {lists : List (UInt8 × List UInt16)}
    (h : ∀ p ∈ lists, p.2.length ≤ 2 ^ 31 - 1) (n : Nat) :
    Tag.Readable (n + 3) (UpgradeData.ofLists sides lists).toTag := by
  have hindices : Tag.Readable (n + 2) (UpgradeData.ofLists sides lists).indicesTag := by
    refine Tag.readable_compound_iff.2 ⟨Entries.ascending_ofList _, fun p hp => ?_⟩
    obtain ⟨q, hq, rfl⟩ := List.mem_map.1 (Entries.mem_of_mem_ofList hp)
    have hlen := h q (Entries.mem_of_mem_ofList hq)
    have hkey := Rule.size_toString_le q.1.toNat q.1.toNat_lt
    refine ⟨hkey, by simp [cellsTag], Tag.readable_leaf rfl fun hlong => ?_⟩
    rw [cellsTag, Tag.Refused, List.size_toArray, List.length_map] at hlong
    exact absurd hlong (Nat.not_lt.2 hlen)
  have hsides : Tag.Readable (n + 2) (.byte sides.bits.toInt8) :=
    Tag.readable_leaf rfl not_false
  have hempty : Tag.Readable (n + 3) (.compound []) :=
    Tag.readable_compound_iff.2 ⟨Entries.ascending_nil, by simp⟩
  exact (hempty.insert hsides (by simp) (by decide)).insert hindices (by simp [indicesTag])
    (by decide)

/-! ## the level -/

namespace Chunk

/-- A list of a readable level is readable, also when it is absent. -/
theorem readable_of_list? {level : Tag} {key : String} {l : List Tag} {n : Nat}
    (hl : Tag.Readable (n + 2) level) (h : list? level key = .ok l) :
    Tag.Readable (n + 1) (.list l) := by
  unfold list? at h
  cases hk : level.get? key with
  | none =>
    rw [hk] at h
    cases h
    exact Tag.readable_list_iff.2 ⟨Nat.zero_le _, by simp, by simp⟩
  | some t =>
    rw [hk] at h
    cases t with
    | list l' =>
      cases h
      exact (hl.of_get? hk).2
    | _ => cases h

namespace Decoding

variable {level : Tag} {log log' : Array Event} {c : Chunk} {n : Nat}

theorem readable_fields (d : Decoding level log log' c) (h : Tag.Readable (n + 1) level) :
    Tag.Readable (n + 1) (.compound c.fields) := by
  rw [d.level_eq] at h
  rw [d.fields_eq]
  exact (h.erase "Sections").erase "TileEntities"

theorem readable_section_fields (d : Decoding level log log' c) (h : Tag.Readable (n + 3) level)
    (log₁ : Array Event) {y : Fin 16} {s : Section}
    (hs : (c.settle log₁).1.sections.get y = some s) :
    Tag.Readable (n + 1) (.compound s.fields) := by
  obtain ⟨s₁, hs₁, hframe⟩ := exists_get_of_frame_eq (c.frame_settle log₁) hs
  have hfields : s₁.fields = s.fields := congrArg SectionFrame.fields hframe
  obtain ⟨t, s₀, ⟨before, after, hl, -, -⟩, ht, rfl⟩ := d.get_sections_iff.1 hs₁
  have hmem : t ∈ d.tags := by
    rw [hl]
    exact List.mem_append_right before List.mem_cons_self
  have hlist := readable_of_list? h d.tags_eq
  rw [← hfields, Section.fields_decode]
  exact Section.readable_fields ((Tag.readable_list_iff.1 hlist).2.2 t hmem).2 ht

theorem length_deferred_le (d : Decoding level log log' c) (log₁ : Array Event) {y : Fin 16}
    {s : Section} (hs : (c.settle log₁).1.sections.get y = some s) : s.deferred.length ≤ 4096 := by
  obtain ⟨s₁, hs₁, hframe⟩ := exists_get_of_frame_eq (c.frame_settle log₁) hs
  have hdeferred : s₁.deferred = s.deferred := congrArg SectionFrame.deferred hframe
  rw [← hdeferred, Section.deferred]
  cases hd : s₁.decoded? with
  | none => exact Nat.zero_le _
  | some cells =>
    obtain ⟨l, rfl⟩ := d.exists_layers hs₁ hd
    dsimp only
    rw [DecodedCells.deferred_decode]
    exact l.length_deferred_le

theorem readable_sectionTag (d : Decoding level log log' c) (h : Tag.Readable (n + 7) level)
    (log₁ : Array Event) {s : Section} (hs : s ∈ (c.settle log₁).1.kept) {e : Tag}
    (he : sectionTag s = .ok e) : e.kind = .compound ∧ Tag.Readable (n + 5) e := by
  obtain ⟨y, hy⟩ := mem_kept.1 hs
  have hfields := d.readable_section_fields h log₁ hy
  cases hd : s.decoded? with
  | none =>
    rw [sectionTag_of_bare hd] at he
    cases he
    exact ⟨rfl, hfields⟩
  | some cells =>
    have hb := d.bounded_settle log₁ y s cells hy hd
    obtain ⟨f, hf, hsound, -, hpalette, -⟩ := sectionTag_of_decoded hd hb
    rw [hf] at he
    cases he
    refine ⟨rfl, FlatSection.readable_toTag hsound ?_ ?_ hfields⟩
    · rw [hpalette]
      exact hb.size_le
    · rw [hpalette]
      exact d.brief_settle log₁ y s cells hy hd

theorem readable_sections (d : Decoding level log log' c) (h : Tag.Readable (n + 7) level)
    (log₁ : Array Event) {tags : List Tag}
    (ht : List.Forall₂ (fun s e => sectionTag s = .ok e) (c.settle log₁).1.kept tags) :
    Tag.Readable (n + 6) (.list tags) := by
  have hall : ∀ e ∈ tags, e.kind = .compound ∧ Tag.Readable (n + 5) e := by
    intro e he
    obtain ⟨s, hs, hse⟩ := exists_mem_of_forall₂ ht he
    exact d.readable_sectionTag h log₁ hs hse
  refine Tag.readable_list_iff.2 ⟨?_, fun u hu v hv => ?_, fun u hu => ?_⟩
  · have hlen := (c.settle log₁).1.length_kept_le
    rw [ht.length_eq] at hlen
    omega
  · rw [(hall u hu).1, (hall v hv).1]
  · refine ⟨fun he => ?_, (hall u hu).2⟩
    have hk := (hall u hu).1
    rw [he] at hk
    cases hk

/-- Records are taken and not made, so those that are left still make a list. -/
theorem readable_records (d : Decoding level log log' c) (h : Tag.Readable (n + 2) level)
    (log₁ : Array Event) : Tag.Readable (n + 1) (.list (c.settle log₁).1.entities.records) := by
  have hsub := d.subperm_settle log₁
  obtain ⟨hlen, hkind, hread⟩ := Tag.readable_list_iff.1 (readable_of_list? h d.records_eq)
  exact Tag.readable_list_iff.2 ⟨Nat.le_trans hsub.length_le hlen,
    fun u hu v hv => hkind u (hsub.subset hu) v (hsub.subset hv),
    fun u hu => hread u (hsub.subset hu)⟩

theorem readable_upgradeData (d : Decoding level log log' c) (log₁ : Array Event) (n : Nat) :
    Tag.Readable (n + 3) (c.settle log₁).1.upgradeData.toTag := by
  refine UpgradeData.readable_toTag (fun p hp => ?_) n
  obtain ⟨s, hs, rfl⟩ := List.mem_map.1 hp
  obtain ⟨y, hy⟩ := mem_kept.1 hs
  have hlen := d.length_deferred_le log₁ hy
  rw [List.length_map]
  omega

/-- **The flattened form of a readable level is readable.** -/
theorem readable_write (d : Decoding level log log' c) (h : Tag.Readable (n + 7) level)
    (log₁ : Array Event) {out : Tag} (hout : (c.settle log₁).1.write = .ok out) :
    out.kind = .compound ∧ Tag.Readable (n + 7) out := by
  obtain ⟨tags, htags, rfl⟩ := write_eq_ok_iff.1 hout
  have hfields : Tag.Readable (n + 7) (.compound (c.settle log₁).1.fields) := by
    have hf : (c.settle log₁).1.fields = c.fields :=
      congrArg ChunkFrame.fields (c.frame_settle log₁)
    rw [hf]
    exact d.readable_fields h
  have hsections : Tag.Readable (n + 7)
      (.compound (Entries.insert "Sections" (.list tags) (c.settle log₁).1.fields)) :=
    hfields.insert (d.readable_sections h log₁ htags) (by simp) (by decide)
  have hupgrade := d.readable_upgradeData log₁ (n + 3)
  refine ⟨rfl, ?_⟩
  rw [entriesWith]
  refine Tag.Readable.insert ?_ hupgrade
    (by simp [UpgradeData.toTag, Tag.insert, Tag.emptyCompound]) (by decide)
  split
  · exact hsections
  · exact hsections.insert (d.readable_records h log₁) (by simp) (by decide)

end Decoding

end Chunk

end Flattening
