import Flattening.Proofs.Chunk.Frame
import Flattening.Proofs.Section.ReadBack
import Mathlib.Data.Fintype.Fin
import Mathlib.Data.List.Forall2
import Mathlib.Tactic.FinCases

/-!
# What is written of a chunk

Every section is written on its own, and none can fail to be once its palette is bounded.

* `mapM_eq_ok_iff`          a list is computed element by element;
* `sectionTag_of_decoded`   the section written for decoded cells is sound and has their states;
* `Writable.exists_write`   a chunk is written with one tag for each section;
* `Decoding.writable_settle`   a decoded level can be written once the rules have run.
-/

namespace Flattening

theorem mapM_eq_ok_iff {ε α β : Type} {f : α → Except ε β} {l : List α} {bs : List β} :
    l.mapM f = .ok bs ↔ List.Forall₂ (fun a b => f a = .ok b) l bs := by
  induction l generalizing bs with
  | nil =>
    rw [List.forall₂_nil_left_iff, List.mapM_nil]
    show Except.ok [] = Except.ok bs ↔ bs = []
    rw [Except.ok.injEq, eq_comm]
  | cons a l ih =>
    rw [List.mapM_cons, List.forall₂_cons_left_iff]
    constructor
    · intro h
      cases ha : f a with
      | error e => rw [ha] at h; cases h
      | ok b =>
        rw [ha] at h
        cases hl : l.mapM f with
        | error e => rw [hl] at h; cases h
        | ok r =>
          rw [hl] at h
          cases h
          exact ⟨b, r, rfl, ih.1 hl, rfl⟩
    · rintro ⟨b, r, ha, hl, rfl⟩
      rw [ha, ih.2 hl]
      rfl

theorem exists_mem_of_forall₂ {α β : Type} {R : α → β → Prop} {l : List α} {bs : List β}
    (h : List.Forall₂ R l bs) {b : β} (hb : b ∈ bs) : ∃ a ∈ l, R a b := by
  induction h with
  | nil => exact absurd hb List.not_mem_nil
  | cons hab _ ih =>
    rcases List.mem_cons.1 hb with rfl | hb
    · exact ⟨_, List.mem_cons_self, hab⟩
    · obtain ⟨a, ha, hab⟩ := ih hb
      exact ⟨a, List.mem_cons_of_mem _ ha, hab⟩

namespace Section

/-- A height read from a legacy section is read from a flattened one as well. -/
theorem flatY?_of_y? {t : Tag} {y : Fin 16} (h : y? t = .ok y) :
    FlatSection.y? t = some (UInt8.ofNat y.val) := by
  unfold y? at h
  cases hv : t.get? "Y" with
  | none => rw [hv] at h; cases h
  | some v =>
    cases hn : v.integer? with
    | none => simp only [hv, hn] at h; cases h
    | some n =>
      simp only [hv, hn] at h
      split at h
      · rename_i hr
        cases h
        simp only [FlatSection.y?, hv, Option.bind_some, hn]
        exact if_pos hr
      · cases h

theorem fields_decode (s : Section) : s.decode.fields = s.fields := by
  obtain ⟨y, m, k⟩ := s
  cases k <;> rfl

theorem y?_withoutArrays {m : Entries String Tag} :
    y? (.compound (withoutArrays m)) = y? (.compound m) := by
  have h : (Tag.compound (withoutArrays m)).get? "Y" = (Tag.compound m).get? "Y" := by
    rw [Tag.get?_compound, withoutArrays, Entries.get?_erase_ne (by decide),
      Entries.get?_erase_ne (by decide), Entries.get?_erase_ne (by decide), Tag.get?_compound]
  rw [y?, h]
  rfl

end Section

namespace Chunk

/-! ## one section -/

theorem sectionTag_of_bare {s : Section} (h : s.decoded? = none) :
    sectionTag s = .ok (.compound s.fields) := by
  rw [sectionTag, h]

/-- **Decoded cells are written as a sound section** that has the same states. -/
theorem sectionTag_of_decoded {s : Section} {d : DecodedCells} (h : s.decoded? = some d)
    (hb : d.Bounded (2 ^ 31 - 1)) :
    ∃ f : FlatSection, sectionTag s = .ok (f.toTag s.fields) ∧ f.Sound ∧ f.y = UInt8.ofNat s.y.val ∧
      f.palette = d.palette.states ∧ ∀ c : Cell, f.block c.val = .ok (d.block c) := by
  have hy : (UInt8.ofNat s.y.val).toNat < 16 := by
    rw [UInt8.toNat_ofNat_of_lt' (by show s.y.val < 256; omega)]
    exact s.y.isLt
  obtain ⟨f, hf, hsound, hfy, hpalette, hblock⟩ :=
    FlatSection.ofCells_eq_ok hy (hb.mono (by decide)).size_le d.cells_lt
  refine ⟨f, ?_, hsound, hfy, hpalette, fun c => ?_⟩
  · rw [sectionTag, h]
    simp only [hf]
  · obtain ⟨b, hb, hget⟩ := hblock c
    rw [d.get?_block, Option.some.injEq] at hget
    rw [hget]
    exact hb

/-! ## all sections -/

/-- Every section lies at its height and has a palette that can be packed. -/
structure Writable (c : Chunk) : Prop where
  y_eq : ∀ y s, c.sections.get y = some s → s.y = y
  y?_fields : ∀ y s, c.sections.get y = some s → Section.y? (.compound s.fields) = .ok y
  bounded : c.Bounded (2 ^ 31 - 1)

/-- the entries written besides the block states of sections -/
def entriesWith (c : Chunk) (tags : List Tag) : Entries String Tag :=
  Entries.insert "UpgradeData" c.upgradeData.toTag
    (if c.entities.records.isEmpty then Entries.insert "Sections" (.list tags) c.fields
      else Entries.insert "TileEntities" (.list c.entities.records)
        (Entries.insert "Sections" (.list tags) c.fields))

theorem write_eq_ok_iff {c : Chunk} {out : Tag} :
    c.write = .ok out ↔ ∃ tags, List.Forall₂ (fun s e => sectionTag s = .ok e) c.kept tags ∧
      out = .compound (c.entriesWith tags) := by
  unfold write
  cases h : c.kept.mapM sectionTag with
  | error e =>
    constructor
    · intro h
      cases h
    · rintro ⟨tags, htags, -⟩
      rw [mapM_eq_ok_iff.2 htags] at h
      cases h
  | ok tags =>
    have htags := mapM_eq_ok_iff.1 h
    constructor
    · intro hout
      exact ⟨tags, htags, (Except.ok.inj hout).symm⟩
    · rintro ⟨tags', htags', rfl⟩
      rw [mapM_eq_ok_iff.2 htags'] at h
      cases h
      rfl

theorem get?_sections_entriesWith (c : Chunk) (tags : List Tag) :
    Entries.get? "Sections" (c.entriesWith tags) = some (.list tags) := by
  rw [entriesWith, Entries.get?_insert_ne (by decide)]
  split
  · rw [Entries.get?_insert_self]
  · rw [Entries.get?_insert_ne (by decide), Entries.get?_insert_self]

theorem Writable.exists_sectionTag {c : Chunk} (h : c.Writable) {s : Section} (hs : s ∈ c.kept) :
    ∃ e, sectionTag s = .ok e ∧ FlatSection.y? e = some (UInt8.ofNat s.y.val) := by
  obtain ⟨y, hy⟩ := mem_kept.1 hs
  cases hd : s.decoded? with
  | none =>
    refine ⟨.compound s.fields, sectionTag_of_bare hd, ?_⟩
    rw [h.y_eq y s hy]
    exact Section.flatY?_of_y? (h.y?_fields y s hy)
  | some d =>
    obtain ⟨f, hf, hsound, hfy, -, -⟩ := sectionTag_of_decoded hd (h.bounded y s d hy hd)
    refine ⟨f.toTag s.fields, hf, ?_⟩
    rw [FlatSection.y?_toTag hsound.y_lt, hfy]

/-- **A chunk is written** with one tag for each section, and each tag has its height. -/
theorem Writable.exists_write {c : Chunk} (h : c.Writable) :
    ∃ tags, c.write = .ok (.compound (c.entriesWith tags)) ∧
      List.Forall₂ (fun s e => sectionTag s = .ok e ∧
        FlatSection.y? e = some (UInt8.ofNat s.y.val)) c.kept tags := by
  have hall : ∀ l : List Section, (∀ s ∈ l, s ∈ c.kept) →
      ∃ tags, List.Forall₂ (fun s e => sectionTag s = .ok e ∧
        FlatSection.y? e = some (UInt8.ofNat s.y.val)) l tags := by
    intro l hl
    induction l with
    | nil => exact ⟨[], .nil⟩
    | cons s l ih =>
      obtain ⟨e, he⟩ := h.exists_sectionTag (hl s List.mem_cons_self)
      obtain ⟨tags, htags⟩ := ih fun t ht => hl t (List.mem_cons_of_mem s ht)
      exact ⟨e :: tags, .cons he htags⟩
  obtain ⟨tags, htags⟩ := hall c.kept fun s hs => hs
  exact ⟨tags, write_eq_ok_iff.2 ⟨tags, htags.imp fun _ _ hse => hse.1, rfl⟩, htags⟩

theorem Writable.filter_kept {c : Chunk} (h : c.Writable) {y : Fin 16} {s : Section}
    (hs : c.sections.get y = some s) : c.kept.filter (fun t => t.y == y) = [s] := by
  have hf : (fun y' => (c.sections.get y').filter fun t => t.y == y) =
      fun y' => if y' = y then some s else none := by
    funext y'
    cases hy' : c.sections.get y' with
    | none =>
      have hne : y' ≠ y := by
        rintro rfl
        rw [hs] at hy'
        cases hy'
      rw [if_neg hne]
      rfl
    | some t =>
      have ht := h.y_eq y' t hy'
      by_cases hne : y' = y
      · subst hne
        rw [hs] at hy'
        cases hy'
        rw [if_pos rfl, Option.filter_some, if_pos (beq_iff_eq.2 ht)]
      · rw [if_neg hne, Option.filter_some, if_neg]
        rwa [ht, beq_iff_eq]
  rw [kept_eq, List.filter_filterMap, hf]
  fin_cases y <;> rfl

/-! ## a decoded level -/

namespace Decoding

variable {level : Tag} {log log' : Array Event} {c : Chunk}

theorem y?_fields (d : Decoding level log log' c) {y : Fin 16} {s : Section}
    (h : c.sections.get y = some s) : Section.y? (.compound s.fields) = .ok y := by
  obtain ⟨t, s₀, ⟨before, after, -, hy, -⟩, ht, rfl⟩ := d.get_sections_iff.1 h
  obtain ⟨m, y', rfl, -, ⟨-, rfl⟩ | ⟨l, -, rfl⟩⟩ := Section.ofTag?_eq_ok_iff.1 ht
  · exact hy
  · exact Section.y?_withoutArrays.trans hy

theorem writable_settle (d : Decoding level log log' c) (log₁ : Array Event) :
    (c.settle log₁).1.Writable where
  y_eq := by
    intro y s' hs'
    obtain ⟨s, hs, hframe⟩ := exists_get_of_frame_eq (c.frame_settle log₁) hs'
    rw [← d.y_of_get hs]
    exact (congrArg SectionFrame.y hframe).symm
  y?_fields := by
    intro y s' hs'
    obtain ⟨s, hs, hframe⟩ := exists_get_of_frame_eq (c.frame_settle log₁) hs'
    have hfields : s.fields = s'.fields := congrArg SectionFrame.fields hframe
    rw [← hfields]
    exact d.y?_fields hs
  bounded := d.bounded_settle log₁

end Decoding

/-- A level that is read can be written. -/
theorem exists_write_of_ofLevel {level : Tag} {log log' : Array Event} {c : Chunk}
    (h : ofLevel level log = .ok c log') : ∃ out, c.write = .ok out := by
  obtain ⟨c₀, mid, hc₀, rfl, -⟩ := ofLevel_eq_ok_iff.1 h
  obtain ⟨d⟩ := decode_eq_ok_iff.1 hc₀
  obtain ⟨tags, hwrite, -⟩ := (d.writable_settle mid).exists_write
  exact ⟨_, hwrite⟩

end Chunk

end Flattening
