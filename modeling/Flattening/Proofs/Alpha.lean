import Flattening.Proofs.Chunk.Conservation
import Flattening.Proofs.Chunk.Plain
import Flattening.Proofs.Chunk.Shape
import Flattening.Proofs.Rule.Alpha
import Flattening.Proofs.WellFormed

/-!
# Levels that differ in the alpha flag

Two levels that differ in nothing but the flag are read as the same chunk but for the flag.  The
rules keep the two alike, and all that is written besides the states does not depend on the rules.

* `Decoding.sameButFlag`      the two chunks before the rules have run;
* `Decoding.akin_settle`      and afterwards;
* `Decoding.get?_entriesWith_eq`, `sameSection_of_rebuilt`   what is written of the two;
* `alpha_flag_reaches_doors`  so the written levels agree but for hinge and power of doors.
-/

namespace Flattening

namespace Chunk

/-- chunks that differ in no more than the flag and the fields that are carried over -/
structure SameButFlag (c₁ c₂ : Chunk) : Prop where
  x_eq : c₁.x = c₂.x
  z_eq : c₁.z = c₂.z
  sides_eq : c₁.sides = c₂.sides
  sections_eq : c₁.sections = c₂.sections
  entities_eq : c₁.entities = c₂.entities

namespace SameButFlag

variable {c₁ c₂ : Chunk} (h : SameButFlag c₁ c₂)
include h

theorem block_eq : c₁.block = c₂.block := by
  funext i
  rw [block, h.sections_eq, block]

theorem groups_eq : c₁.groups = c₂.groups := by
  rw [groups, kept, h.sections_eq, groups, kept]

theorem upgradeData_settle_eq (log₁ log₂ : Array Event) :
    (c₁.settle log₁).1.upgradeData = (c₂.settle log₂).1.upgradeData := by
  rw [upgradeData_of_frame_eq (c₁.frame_settle log₁),
    upgradeData_of_frame_eq (c₂.frame_settle log₂), upgradeData, kept, h.sides_eq, h.sections_eq,
    upgradeData, kept]

end SameButFlag

namespace Decoding

variable {level₁ level₂ : Tag} {log₁ log₂ log₁' log₂' : Array Event} {c₁ c₂ : Chunk}

/-- The same coordinates and lists give the same chunk, but for the flag. -/
theorem sameButFlag (d₁ : Decoding level₁ log₁ log₁' c₁) (d₂ : Decoding level₂ log₂ log₂' c₂)
    (hx : c₁.x = c₂.x) (hz : c₁.z = c₂.z) (hrecords : d₁.records = d₂.records)
    (htags : d₁.tags = d₂.tags) : SameButFlag c₁ c₂ := by
  have hplaced : d₁.placed = d₂.placed := by
    refine Vector.ext fun y hy => ?_
    show d₁.placed.get ⟨y, hy⟩ = d₂.placed.get ⟨y, hy⟩
    rw [d₁.get_placed_eq, d₂.get_placed_eq, htags]
  refine ⟨hx, hz, ?_, ?_, ?_⟩
  · rw [d₁.sides_eq, d₂.sides_eq, hplaced]
  · rw [d₁.sections_eq, d₂.sections_eq, hplaced]
  · rw [(BlockEntities.ofRecords_eq_ok d₁.entities_eq).2.1,
      (BlockEntities.ofRecords_eq_ok d₂.entities_eq).2.1, hx, hz, hrecords]

/-- So the rules have the same cells to run over, and leave the two alike. -/
theorem akin_settle (d₁ : Decoding level₁ log₁ log₁' c₁) (d₂ : Decoding level₂ log₂ log₂' c₂)
    (h : SameButFlag c₁ c₂) :
    Akin d₁.layout (CellStore.view (c₁.settle log₁').1) (CellStore.view (c₂.settle log₂').1) := by
  have hview : Akin d₁.layout (CellStore.view c₁) (CellStore.view c₂) := by
    refine ⟨d₁.shows_view, fun i => ?_, fun i => ?_⟩
    · show d₁.layout.Alike i (c₁.block i) (c₂.block i)
      rw [h.block_eq]
      exact d₁.layout.alike_refl i _
    · show c₁.entities.get? i = c₂.entities.get? i
      rw [h.entities_eq]
  rw [settle, settle, view_run d₁ (List.Perm.refl c₁.groups),
    view_run d₂ (List.Perm.refl c₂.groups), ← h.groups_eq]
  exact hview.runGroups (fun g hg i hi => (d₁.id?_of_group hg i hi).1) log₁' log₂'

end Decoding

/-! ## what is written -/

/-- What two levels write for the section `t` of height `y`.  All fields but the palette and the
cells are the same, and so is every state that is read back, but for hinge and power of doors. -/
structure SameSection (tags : List Tag) (y : Fin 16) (t e₁ e₂ : Tag) : Prop where
  height₁ : FlatSection.y? e₁ = some (UInt8.ofNat y.val)
  height₂ : FlatSection.y? e₂ = some (UInt8.ofNat y.val)
  fields : ∀ key ∉ ["Palette", "BlockStates"], e₁.get? key = e₂.get? key
  bare : t.get? "Blocks" = none → e₁ = e₂
  states : (t.get? "Blocks").isSome →
    ∃ f₁ f₂, FlatSection.ofTag? e₁ = .ok f₁ ∧ FlatSection.ofTag? e₂ = .ok f₂ ∧
      ∀ cell : Cell, ∃ s₁ s₂, f₁.block cell.val = .ok s₁ ∧ f₂.block cell.val = .ok s₂ ∧
        SameButHinge s₁ s₂ ∧
        ((∀ b ∈ [64, 71, 193, 194, 195, 196, 197], listedId? tags (.of y cell) ≠ some b) →
          s₁ = s₂)

theorem get?_eq_of_flattened {c₁ c₂ : Chunk} {y : Fin 16} {t e₁ e₂ : Tag} {f₁ f₂ : FlatSection}
    (h₁ : Flattened c₁ y t e₁ f₁) (h₂ : Flattened c₂ y t e₂ f₂) {key : String}
    (hkey : key ∉ ["Palette", "BlockStates"]) : e₁.get? key = e₂.get? key := by
  by_cases hdropped : key ∈ ["Blocks", "Data", "Add"]
  · rw [h₁.dropped key hdropped, h₂.dropped key hdropped]
  · by_cases hy : key = "Y"
    · rw [hy, h₁.height, h₂.height]
    · have hcarried : key ∉ ["Blocks", "Data", "Add", "Y", "Palette", "BlockStates"] := by
        simp only [List.mem_cons, List.not_mem_nil, or_false, not_or] at hkey hdropped ⊢
        exact ⟨hdropped.1, hdropped.2.1, hdropped.2.2, hy, hkey.1, hkey.2⟩
      rw [h₁.carried key hcarried, h₂.carried key hcarried]

/-- Chunks that are alike write the same sections, but for hinge and power of doors. -/
theorem sameSection_of_rebuilt {c₁ c₂ : Chunk} {L : Layout} {tags : List Tag}
    (hL : ∀ i, L.ids i = listedId? tags i) (h : ∀ i, L.Alike i (c₁.block i) (c₂.block i))
    {y : Fin 16} {t e₁ e₂ : Tag} (hy₁ : FlatSection.y? e₁ = some (UInt8.ofNat y.val))
    (hy₂ : FlatSection.y? e₂ = some (UInt8.ofNat y.val)) (h₁ : Rebuilt c₁ y t e₁)
    (h₂ : Rebuilt c₂ y t e₂) : SameSection tags y t e₁ e₂ := by
  cases hb : t.get? "Blocks" with
  | none =>
    obtain rfl := h₁.eq_of_bare hb
    obtain rfl := h₂.eq_of_bare hb
    exact ⟨hy₁, hy₂, fun _ _ => rfl, fun _ => rfl, fun hsome => by simp [hb] at hsome⟩
  | some v =>
    obtain ⟨f₁, hf₁⟩ := h₁.exists_flattened (by simp [hb])
    obtain ⟨f₂, hf₂⟩ := h₂.exists_flattened (by simp [hb])
    refine ⟨hy₁, hy₂, fun key hkey => get?_eq_of_flattened hf₁ hf₂ hkey, fun hnone => ?_,
      fun _ => ⟨f₁, f₂, hf₁.reads_back.ofTag?_eq, hf₂.reads_back.ofTag?_eq, fun cell => ?_⟩⟩
    · rw [hb] at hnone
      cases hnone
    · obtain ⟨hsame, heq⟩ := h (.of y cell)
      refine ⟨_, _, hf₁.reads_back.block_eq cell, hf₂.reads_back.block_eq cell, hsame,
        fun hno => heq ?_⟩
      rintro ⟨b, hdoor, hid⟩
      exact hno b hdoor ((hL _).symm.trans hid)

theorem forall₂_join {α β γ : Type} {R : α → β → Prop} {S : α → γ → Prop} {l : List α}
    {bs : List β} {cs : List γ} (hb : List.Forall₂ R l bs) (hc : List.Forall₂ S l cs) :
    List.Forall₂ (fun b c => ∃ a, R a b ∧ S a c) bs cs := by
  induction hb generalizing cs with
  | nil =>
    rw [List.forall₂_nil_left_iff.1 hc]
    exact .nil
  | cons hab _ ih =>
    obtain ⟨c, cs, hac, hrest, rfl⟩ := List.forall₂_cons_left_iff.1 hc
    exact .cons ⟨_, hab, hac⟩ (ih hrest)

/-- Two written levels: all fields but the flag are the same, and so are the sections but for
hinge and power of doors. -/
structure SameButDoors (tags : List Tag) (out₁ out₂ : Tag) : Prop where
  fields : ∀ key, key ≠ "convertedFromAlphaFormat" → key ≠ "Sections" →
    out₁.get? key = out₂.get? key
  sections : ∃ emitted₁ emitted₂, out₁.get? "Sections" = some (.list emitted₁) ∧
    out₂.get? "Sections" = some (.list emitted₂) ∧
    List.Forall₂ (fun e₁ e₂ => ∃ y t, LastListed tags y t ∧ SameSection tags y t e₁ e₂)
      emitted₁ emitted₂

namespace Decoding

variable {level₁ level₂ : Tag} {log₁ log₂ log₁' log₂' : Array Event} {c₁ c₂ : Chunk}

/-- What is written besides the sections depends on the flag in no way. -/
theorem get?_entriesWith_eq (d₁ : Decoding level₁ log₁ log₁' c₁)
    (d₂ : Decoding level₂ log₂ log₂' c₂) (h : SameButFlag c₁ c₂)
    (hrecords : d₁.records = d₂.records) (htags : d₁.tags = d₂.tags) {key : String}
    (hsame : level₁.get? key = level₂.get? key) (hkey : key ≠ "Sections")
    (emitted₁ emitted₂ : List Tag) :
    Entries.get? key ((c₁.settle log₁').1.entriesWith emitted₁) =
      Entries.get? key ((c₂.settle log₂').1.entriesWith emitted₂) := by
  by_cases hdata : key = "UpgradeData"
  · rw [hdata, entriesWith, Entries.get?_insert_self, entriesWith, Entries.get?_insert_self,
      h.upgradeData_settle_eq log₁' log₂']
  · by_cases hrec : key = "TileEntities"
    · rw [hrec, d₁.get?_records_settle, d₂.get?_records_settle, h.x_eq, h.z_eq, hrecords, htags]
    · have hother : key ∉ ["Sections", "TileEntities", "UpgradeData"] := by
        simp [hkey, hdata, hrec]
      rw [d₁.get?_entriesWith_settle hother, d₂.get?_entriesWith_settle hother, hsame]

end Decoding

end Chunk

open Chunk

/-- **The alpha flag reaches hinge and power of doors, and nothing else.**  Of two levels that
differ in the flag alone, the block entities left, the upgrade data and all other fields are the
same, and so are the heights of the sections, their other fields and every state read back from
them, but for the values of hinge and power in cells with the block id of a door. -/
theorem alpha_flag_reaches_doors {level₁ level₂ out₁ out₂ : Tag}
    {log₁ log₂ log₁' log₂' : Array Event}
    (hsame : ∀ key ≠ "convertedFromAlphaFormat", level₁.get? key = level₂.get? key)
    (h₁ : upgradeLevel level₁ log₁ = .ok out₁ log₁')
    (h₂ : upgradeLevel level₂ log₂ = .ok out₂ log₂') :
    ∃ tags, list? level₁ "Sections" = .ok tags ∧ SameButDoors tags out₁ out₂ := by
  obtain ⟨c₁, hc₁, hw₁⟩ := upgradeLevel_eq_ok_iff.1 h₁
  obtain ⟨c₂, hc₂, hw₂⟩ := upgradeLevel_eq_ok_iff.1 h₂
  obtain ⟨c₁, mid₁, hdecode₁, rfl, -⟩ := ofLevel_eq_ok_iff.1 hc₁
  obtain ⟨c₂, mid₂, hdecode₂, rfl, -⟩ := ofLevel_eq_ok_iff.1 hc₂
  obtain ⟨d₁⟩ := decode_eq_ok_iff.1 hdecode₁
  obtain ⟨d₂⟩ := decode_eq_ok_iff.1 hdecode₂
  have hx : c₁.x = c₂.x := Except.ok.inj
    (d₁.x_eq.symm.trans ((coordinate?_congr (hsame "xPos" (by decide))).trans d₂.x_eq))
  have hz : c₁.z = c₂.z := Except.ok.inj
    (d₁.z_eq.symm.trans ((coordinate?_congr (hsame "zPos" (by decide))).trans d₂.z_eq))
  have hrecords : d₁.records = d₂.records := Except.ok.inj (d₁.records_eq.symm.trans
    ((list?_congr (hsame "TileEntities" (by decide))).trans d₂.records_eq))
  have htags : d₁.tags = d₂.tags := Except.ok.inj
    (d₁.tags_eq.symm.trans ((list?_congr (hsame "Sections" (by decide))).trans d₂.tags_eq))
  have hflag := d₁.sameButFlag d₂ hx hz hrecords htags
  have hakin := d₁.akin_settle d₂ hflag
  obtain ⟨emitted₁, hwrite₁, -, hall₁⟩ := d₁.exists_rebuilt
  obtain ⟨emitted₂, hwrite₂, -, hall₂⟩ := d₂.exists_rebuilt
  obtain rfl := Except.ok.inj (hw₁.symm.trans hwrite₁)
  obtain rfl := Except.ok.inj (hw₂.symm.trans hwrite₂)
  -- both write one section for each height of one list, and so height by height
  rw [← htags] at hall₂
  refine ⟨d₁.tags, d₁.tags_eq, fun key hkey hsections => ?_, emitted₁, emitted₂,
    get?_sections_entriesWith _ emitted₁, get?_sections_entriesWith _ emitted₂, ?_⟩
  · exact d₁.get?_entriesWith_eq d₂ hflag hrecords htags (hsame key hkey) hsections _ _
  · refine (forall₂_join hall₁ hall₂).imp ?_
    rintro e₁ e₂ ⟨y, ⟨hy₁, t, ht, hr₁⟩, hy₂, t', ht', hr₂⟩
    obtain rfl := lastListed_unique ht ht'
    exact ⟨y, t, ht, sameSection_of_rebuilt d₁.id?_eq hakin.block hy₁ hy₂ hr₁ hr₂⟩

/-- sections of a level that has doors under stone at the top -/
def stoneSections : List Tag := [sectionOf (Fin.last 15) stoneAboveDoors]

/-- the level of these sections with the flag -/
def alphaLevel : Tag :=
  .compound [("Sections", .list stoneSections), ("convertedFromAlphaFormat", .byte 1)]

/-- The same sections are upgraded with the flag and without. -/
theorem alpha_flag_reaches_doors_under_stone :
    ∃ out₁ out₂ log₁ log₂, upgradeLevel (levelOf stoneSections) #[] = .ok out₁ log₁ ∧
      upgradeLevel alphaLevel #[] = .ok out₂ log₂ ∧
      ∃ tags, list? (levelOf stoneSections) "Sections" = .ok tags ∧
        SameButDoors tags out₁ out₂ := by
  have hsections : Tag.IsListOf WellFormedSection (.list stoneSections) :=
    ⟨_, rfl, fun t ht => Section.exists_ofTag?_iff.1 (ofTag?_of_mem_sectionOf _ _ t ht)⟩
  have hplain : WellFormedLevel (levelOf stoneSections) :=
    ⟨rfl, Tag.optional_of_none rfl, Tag.optional_of_none rfl, Tag.optional_of_none rfl,
      (Tag.optional_iff_of_some rfl).2 hsections⟩
  have halpha : WellFormedLevel alphaLevel :=
    ⟨rfl, Tag.optional_of_none rfl, Tag.optional_of_none rfl, Tag.optional_of_none rfl,
      (Tag.optional_iff_of_some rfl).2 hsections⟩
  have hsame : ∀ key ≠ "convertedFromAlphaFormat",
      (levelOf stoneSections).get? key = alphaLevel.get? key := by
    intro key hkey
    simp only [levelOf, alphaLevel, Tag.get?_compound, Entries.get?_cons, if_neg hkey]
  obtain ⟨out₁, log₁, h₁⟩ := (exists_upgradeLevel_iff _ #[]).2 hplain
  obtain ⟨out₂, log₂, h₂⟩ := (exists_upgradeLevel_iff _ #[]).2 halpha
  exact ⟨out₁, out₂, log₁, log₂, h₁, h₂, alpha_flag_reaches_doors hsame h₁ h₂⟩

end Flattening
