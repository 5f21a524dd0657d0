import Flattening.Proofs.Chunk.RecordList
import Flattening.Proofs.Upgrade

/-!
# Which levels are accepted

A level is well-formed when its coordinates are whole numbers, its block entities compounds and
its sections compounds with a height and with arrays of the right lengths.  That is said here of
the tag alone, key by key; the readers ask exactly this, one after the other.

* `Section.exists_ofTag?_iff`    a section is read exactly when it is well-formed;
* `Chunk.exists_decode_iff`      and so is a level;
* `upgradeLevel_cases`           an upgrade succeeds or finds the level malformed;
* `upgradeLevel_accepts_iff`     exactly the well-formed levels are upgraded.
-/

namespace Flattening

/-! ## what is asked -/

namespace Tag

/-- a whole number of any width -/
def IsWhole (t : Tag) : Prop := t.kind ∈ [Kind.byte, Kind.short, Kind.int, Kind.long]

def IsCompound (t : Tag) : Prop := t.kind = .compound

/-- a byte array of that many bytes -/
def IsBytes (n : Nat) (t : Tag) : Prop := ∃ a, t = .byteArray a ∧ a.size = n

/-- a list of tags that all have the property -/
def IsListOf (P : Tag → Prop) (t : Tag) : Prop := ∃ l, t = .list l ∧ ∀ e ∈ l, P e

/-- What is under the key, if there is anything, has the property. -/
def Optional (t : Tag) (key : String) (P : Tag → Prop) : Prop := ∀ v, t.get? key = some v → P v

end Tag

/-- A section is a compound with a height; its arrays count only if it has block data. -/
structure WellFormedSection (t : Tag) : Prop where
  compound : t.IsCompound
  height : ∃ v n, t.get? "Y" = some v ∧ v.integer? = some n ∧ 0 ≤ n.toInt ∧ n.toInt ≤ 15
  blocks : t.Optional "Blocks" (Tag.IsBytes 4096)
  data : (t.get? "Blocks").isSome → t.Optional "Data" (Tag.IsBytes 2048)
  add : (t.get? "Blocks").isSome → t.Optional "Add" (Tag.IsBytes 2048)

structure WellFormedLevel (t : Tag) : Prop where
  compound : t.IsCompound
  x : t.Optional "xPos" Tag.IsWhole
  z : t.Optional "zPos" Tag.IsWhole
  records : t.Optional "TileEntities" (Tag.IsListOf Tag.IsCompound)
  sections : t.Optional "Sections" (Tag.IsListOf WellFormedSection)

/-! ## parts of a tag -/

namespace Tag

variable {t : Tag} {key : String} {P : Tag → Prop}

theorem isSome_integer?_iff : t.integer?.isSome ↔ t.IsWhole := by
  cases t <;> simp [integer?, IsWhole, kind]

theorem isSome_entries?_iff : t.entries?.isSome ↔ t.IsCompound := by
  cases t <;> simp [entries?, IsCompound, kind]

theorem isCompound_iff : t.IsCompound ↔ ∃ m, t = .compound m := by
  cases t <;> simp [IsCompound, kind]

theorem optional_of_none (h : t.get? key = none) : t.Optional key P := by
  intro v hv
  rw [h] at hv
  cases hv

theorem optional_iff_of_some {v : Tag} (h : t.get? key = some v) : t.Optional key P ↔ P v := by
  constructor
  · exact fun ho => ho v h
  · intro hp u hu
    rw [h, Option.some.injEq] at hu
    rwa [← hu]

end Tag

namespace Chunk

theorem exists_coordinate?_iff {level : Tag} {key : String} :
    (∃ n, coordinate? level key = .ok n) ↔ level.Optional key Tag.IsWhole := by
  unfold coordinate?
  cases hv : level.get? key with
  | none => exact ⟨fun _ => Tag.optional_of_none hv, fun _ => ⟨0, rfl⟩⟩
  | some v =>
    rw [Tag.optional_iff_of_some hv, ← Tag.isSome_integer?_iff]
    unfold Tag.int32?
    dsimp only
    cases v.integer? with
    | none => simp
    | some n => simp

theorem exists_list?_iff {level : Tag} {key : String} {P : Tag → Prop} :
    (∃ l, list? level key = .ok l ∧ ∀ t ∈ l, P t) ↔ level.Optional key (Tag.IsListOf P) := by
  unfold list?
  cases hv : level.get? key with
  | none => exact ⟨fun _ => Tag.optional_of_none hv, fun _ => ⟨[], rfl, by simp⟩⟩
  | some v =>
    rw [Tag.optional_iff_of_some hv, Tag.IsListOf]
    cases v <;> simp [Tag.list?]

end Chunk

/-! ## sections -/

namespace Section

variable {m : Entries String Tag} {t : Tag}

theorem exists_y?_iff : (∃ y, y? t = .ok y) ↔
    ∃ v n, t.get? "Y" = some v ∧ v.integer? = some n ∧ 0 ≤ n.toInt ∧ n.toInt ≤ 15 := by
  unfold y?
  cases hv : t.get? "Y" with
  | none => simp
  | some v =>
    cases hn : v.integer? with
    | none => simp [hn]
    | some n =>
      have hle : n.toInt ≤ 15 ↔ n.toInt < 16 := Int.lt_add_one_iff.symm
      by_cases h : 0 ≤ n.toInt ∧ n.toInt < 16
      · simp [hn, h, hle]
      · simp [hn, h, hle]

theorem exists_nibbles?_iff {key : String} :
    (∃ n, nibbles? m key = .ok n) ↔ (Tag.compound m).Optional key (Tag.IsBytes 2048) := by
  unfold nibbles? bytes?
  rw [← Tag.get?_compound]
  cases hv : (Tag.compound m).get? key with
  | none => exact ⟨fun _ => Tag.optional_of_none hv, fun _ => ⟨.absent, rfl⟩⟩
  | some v =>
    rw [Tag.optional_iff_of_some hv, Tag.IsBytes]
    cases v with
    | byteArray a =>
      by_cases ha : a.size = 2048
      · simp [Tag.byteArray?, Nibbles.ofBytes?, ha]
      · simp [Tag.byteArray?, Nibbles.ofBytes?, ha]
    | _ => simp [Tag.byteArray?]

/-- The nibble layers are asked for only where there is block data. -/
theorem exists_layers?_iff : (∃ o, layers? m = .ok o) ↔
    (Tag.compound m).Optional "Blocks" (Tag.IsBytes 4096) ∧
      (((Tag.compound m).get? "Blocks").isSome →
        (Tag.compound m).Optional "Data" (Tag.IsBytes 2048) ∧
          (Tag.compound m).Optional "Add" (Tag.IsBytes 2048)) := by
  rw [← exists_nibbles?_iff, ← exists_nibbles?_iff]
  unfold layers? bytes?
  rw [← Tag.get?_compound]
  cases hv : (Tag.compound m).get? "Blocks" with
  | none => simp [Tag.optional_of_none hv]
  | some v =>
    rw [Tag.optional_iff_of_some hv, Tag.IsBytes]
    cases v with
    | byteArray a =>
      by_cases ha : a.size = 4096
      · cases hd : nibbles? m "Data" with
        | error e => simp [Tag.byteArray?, ha]
        | ok data =>
          cases hadd : nibbles? m "Add" with
          | error e => simp [Tag.byteArray?, ha]
          | ok add => simp [Tag.byteArray?, ha]
      · simp [Tag.byteArray?, ha]
    | _ => simp [Tag.byteArray?]

/-- **A section is read exactly when it is well-formed.** -/
theorem exists_ofTag?_iff : (∃ s, ofTag? t = .ok s) ↔ WellFormedSection t := by
  constructor
  · rintro ⟨s, hs⟩
    obtain ⟨m, y, rfl, hy, hl⟩ := ofTag?_eq_ok_iff.1 hs
    have hlayers : ∃ o, layers? m = .ok o := by
      obtain ⟨hl, -⟩ | ⟨l, hl, -⟩ := hl
      · exact ⟨_, hl⟩
      · exact ⟨_, hl⟩
    obtain ⟨hblocks, hnibbles⟩ := exists_layers?_iff.1 hlayers
    exact ⟨rfl, exists_y?_iff.1 ⟨y, hy⟩, hblocks, fun h => (hnibbles h).1, fun h => (hnibbles h).2⟩
  · intro h
    obtain ⟨m, rfl⟩ := Tag.isCompound_iff.1 h.compound
    obtain ⟨y, hy⟩ := exists_y?_iff.2 h.height
    obtain ⟨o, ho⟩ := exists_layers?_iff.2 ⟨h.blocks, fun hb => ⟨h.data hb, h.add hb⟩⟩
    cases o with
    | none => exact ⟨_, ofTag?_eq_ok_iff.2 ⟨m, y, rfl, hy, .inl ⟨ho, rfl⟩⟩⟩
    | some l => exact ⟨_, ofTag?_eq_ok_iff.2 ⟨m, y, rfl, hy, .inr ⟨l, ho, rfl⟩⟩⟩

end Section

/-! ## levels -/

namespace Chunk

variable {level : Tag} {log : Array Event}

theorem wellFormed_of_decoding {c : Chunk} {log' : Array Event} (d : Decoding level log log' c) :
    WellFormedLevel level where
  compound := by
    rw [d.level_eq]
    rfl
  x := exists_coordinate?_iff.1 ⟨_, d.x_eq⟩
  z := exists_coordinate?_iff.1 ⟨_, d.z_eq⟩
  records := exists_list?_iff.1 ⟨_, d.records_eq, fun t ht =>
    Tag.isSome_entries?_iff.1 ((BlockEntities.ofRecords_eq_ok d.entities_eq).1 t ht)⟩
  sections := exists_list?_iff.1 ⟨_, d.tags_eq, fun t ht =>
    Section.exists_ofTag?_iff.1 (ofTag?_of_place d.placed_eq t ht)⟩

/-- **A level is read exactly when it is well-formed.** -/
theorem exists_decode_iff (log : Array Event) :
    (∃ c log', decode level log = .ok c log') ↔ WellFormedLevel level := by
  constructor
  · rintro ⟨c, log', hc⟩
    obtain ⟨d⟩ := decode_eq_ok_iff.1 hc
    exact wellFormed_of_decoding d
  · intro h
    obtain ⟨all, hall⟩ := Tag.isCompound_iff.1 h.compound
    obtain ⟨x, hx⟩ := exists_coordinate?_iff.2 h.x
    obtain ⟨z, hz⟩ := exists_coordinate?_iff.2 h.z
    obtain ⟨records, hrecords, hcompounds⟩ := exists_list?_iff.2 h.records
    obtain ⟨tags, htags, hsections⟩ := exists_list?_iff.2 h.sections
    obtain ⟨entities, between, hentities⟩ := BlockEntities.exists_ofRecords x z
      (fun t ht => Tag.isSome_entries?_iff.2 (hcompounds t ht)) log
    exact exists_decode hall hx hz hrecords hentities htags fun t ht =>
      Section.exists_ofTag?_iff.2 (hsections t ht)

theorem exists_ofLevel_iff (log : Array Event) :
    (∃ c log', ofLevel level log = .ok c log') ↔ WellFormedLevel level := by
  rw [← exists_decode_iff log]
  constructor
  · rintro ⟨c, log', h⟩
    obtain ⟨c₀, mid, hc₀, -⟩ := ofLevel_eq_ok_iff.1 h
    exact ⟨c₀, mid, hc₀⟩
  · exact exists_ofLevel_of_decode

end Chunk

/-! ## upgrades -/

/-- **An upgrade succeeds or finds the level malformed**, since what was read can be written. -/
theorem upgradeLevel_cases (level : Tag) (log : Array Event) :
    (∃ c log' out, Chunk.ofLevel level log = .ok c log' ∧
        upgradeLevel level log = .ok out log') ∨
      ∃ m log', Chunk.ofLevel level log = .error m log' ∧
        upgradeLevel level log = .error (.malformed m) log' := by
  cases hc : Chunk.ofLevel level log with
  | ok c log' =>
    obtain ⟨out, hw⟩ := Chunk.exists_write_of_ofLevel hc
    exact .inl ⟨c, log', out, rfl, upgradeLevel_eq_ok_iff.2 ⟨c, hc, hw⟩⟩
  | error m log' =>
    refine .inr ⟨m, log', rfl, ?_⟩
    rw [upgradeLevel, hc]

theorem exists_upgradeLevel_iff (level : Tag) (log : Array Event) :
    (∃ out log', upgradeLevel level log = .ok out log') ↔ WellFormedLevel level := by
  rw [← Chunk.exists_ofLevel_iff log]
  obtain ⟨c, log', out, hc, hout⟩ | ⟨m, log', hc, herror⟩ := upgradeLevel_cases level log
  · exact ⟨fun _ => ⟨c, log', hc⟩, fun _ => ⟨out, log', hout⟩⟩
  · simp [hc, herror]

/-- **Exactly the well-formed levels are upgraded.**  Every other tag is refused as malformed,
and no tag makes the upgrade go out of bounds.  Cells, nibbles and sections are looked up by
indices of their own size, and dyes, heads and table rows only where there is one; packing the
cells could still miss its words or its width, and would end in a fault. -/
theorem upgradeLevel_accepts_iff (level : Tag) (log : Array Event) :
    ((∃ out log', upgradeLevel level log = .ok out log') ↔ WellFormedLevel level) ∧
      ((∃ m log', upgradeLevel level log = .error (.malformed m) log') ↔
        ¬ WellFormedLevel level) ∧
      ∀ f log', upgradeLevel level log ≠ .error (.fault f) log' := by
  refine ⟨exists_upgradeLevel_iff level log, ?_, ?_⟩
  · rw [← exists_upgradeLevel_iff level log]
    obtain ⟨c, log', out, -, hout⟩ | ⟨m, log', -, herror⟩ := upgradeLevel_cases level log
    · simp [hout]
    · simp [herror]
  · intro f log' hf
    obtain ⟨c, log', out, -, hout⟩ | ⟨m, log', -, herror⟩ := upgradeLevel_cases level log
    · rw [hout] at hf
      cases hf
    · rw [herror] at hf
      cases hf

end Flattening
