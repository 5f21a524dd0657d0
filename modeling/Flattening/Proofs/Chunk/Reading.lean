import Flattening.Chunk.Basic

/-!
# How a chunk comes out of its level

Reading a level is a sequence of steps that may each refuse it.  `Decoding` holds what every
step of a successful reading gave, and `LastListed` says which section of the list is kept.

* `Attempt.Reports`     what an attempt reports, step by step;
* `decode_eq_ok_iff`    a level is read exactly when there is a decoding;
* `ofLevel_eq_ok_iff`   the chunk of a level is its decoded chunk after the rules have run;
* `ofTag?_eq_ok_iff`    what a section is read from;
* `get_placed`          the section kept for a height is the last one listed for it.
-/

namespace Flattening

/-! ## attempts -/

namespace Attempt

variable {ε α β : Type} {log log' : Array Event}

theorem bind_eq_ok {x : Attempt ε α} {f : α → Attempt ε β} {b : β} :
    (x >>= f) log = .ok b log' ↔ ∃ a mid, x log = .ok a mid ∧ f a mid = .ok b log' := by
  show EStateM.bind x f log = _ ↔ _
  unfold EStateM.bind
  cases x log with
  | ok a mid =>
    constructor
    · intro h
      exact ⟨a, mid, rfl, h⟩
    · rintro ⟨a', mid', h, h'⟩
      cases h
      exact h'
  | error e mid =>
    constructor
    · intro h
      cases h
    · rintro ⟨a', mid', h, -⟩
      cases h

theorem pure_eq_ok {a b : α} : (pure a : Attempt ε α) log = .ok b log' ↔ a = b ∧ log = log' := by
  show EStateM.Result.ok a log = .ok b log' ↔ _
  rw [EStateM.Result.ok.injEq]

theorem throw_ne_ok {e : ε} {a : α} : (throw e : Attempt ε α) log ≠ .ok a log' := nofun

theorem report_eq_ok {e : Event} {u : Unit} :
    (report e : Attempt ε Unit) log = .ok u log' ↔ log' = log.push e := by
  show EStateM.Result.ok () (log.push e) = .ok u log' ↔ _
  rw [EStateM.Result.ok.injEq, eq_comm (a := log')]
  simp

theorem liftExcept_eq_ok {x : Except Malformed α} {a : α} :
    Chunk.liftExcept x log = .ok a log' ↔ x = .ok a ∧ log = log' := by
  cases x with
  | ok b => rw [Except.ok.injEq]; exact pure_eq_ok
  | error e => exact ⟨fun h => absurd h throw_ne_ok, fun h => by cases h.1⟩

/-- Whatever a successful attempt reports has the property. -/
def Reports (P : Event → Prop) (x : Attempt ε α) : Prop :=
  ∀ log a log', x log = .ok a log' → ∃ events, log' = log ++ events ∧ ∀ e ∈ events, P e

variable {P : Event → Prop}

theorem reports_pure (a : α) : Reports P (pure a : Attempt ε α) := by
  intro log a' log' h
  obtain ⟨-, rfl⟩ := pure_eq_ok.1 h
  exact ⟨#[], Array.append_empty.symm, by simp⟩

theorem reports_throw_bind (e : ε) (f : α → Attempt ε β) :
    Reports P ((throw e : Attempt ε α) >>= f) := by
  intro log b log' h
  obtain ⟨a, mid, ha, -⟩ := bind_eq_ok.1 h
  exact absurd ha throw_ne_ok

theorem reports_report {e : Event} (h : P e) : Reports P (report e : Attempt ε Unit) := by
  intro log u log' hr
  rw [report_eq_ok.1 hr]
  exact ⟨#[e], rfl, by simpa using h⟩

theorem reports_bind {x : Attempt ε α} {f : α → Attempt ε β} (hx : Reports P x)
    (hf : ∀ a, Reports P (f a)) : Reports P (x >>= f) := by
  intro log b log' h
  obtain ⟨a, mid, ha, hb⟩ := bind_eq_ok.1 h
  obtain ⟨first, rfl, hfirst⟩ := hx _ _ _ ha
  obtain ⟨rest, rfl, hrest⟩ := hf a _ _ _ hb
  refine ⟨first ++ rest, Array.append_assoc, fun e he => ?_⟩
  rcases Array.mem_append.1 he with he | he
  · exact hfirst e he
  · exact hrest e he

theorem reports_foldlM {f : β → α → Attempt ε β} (hf : ∀ b a, Reports P (f b a)) (l : List α)
    (b : β) : Reports P (l.foldlM f b) := by
  induction l generalizing b with
  | nil => exact reports_pure b
  | cons a l ih =>
    rw [List.foldlM_cons]
    exact reports_bind (hf b a) ih

end Attempt

/-! ## sections -/

namespace Section

theorem ofTag?_eq_ok_iff {t : Tag} {s : Section} :
    ofTag? t = .ok s ↔ ∃ m y, t = .compound m ∧ y? t = .ok y ∧
      ((layers? m = .ok none ∧ s = ⟨y, m, .bare⟩) ∨
        ∃ l, layers? m = .ok (some l) ∧ s = ⟨y, withoutArrays m, .legacy l⟩) := by
  constructor
  · intro h
    unfold ofTag? at h
    cases t with
    | compound m =>
      simp only [Tag.entries?] at h
      cases hy : y? (.compound m) with
      | error e => simp only [hy] at h; cases h
      | ok y =>
        cases hl : layers? m with
        | error e => simp only [hy, hl] at h; cases h
        | ok o =>
          cases o with
          | none =>
            simp only [hy, hl] at h
            cases h
            exact ⟨m, y, rfl, rfl, .inl ⟨hl, rfl⟩⟩
          | some l =>
            simp only [hy, hl] at h
            cases h
            exact ⟨m, y, rfl, rfl, .inr ⟨l, hl, rfl⟩⟩
    | _ => cases h
  · rintro ⟨m, y, rfl, hy, ⟨hl, rfl⟩ | ⟨l, hl, rfl⟩⟩
    · simp only [ofTag?, Tag.entries?, hy, hl]
    · simp only [ofTag?, Tag.entries?, hy, hl]

theorem y?_of_ofTag? {t : Tag} {s : Section} (h : ofTag? t = .ok s) : y? t = .ok s.y := by
  obtain ⟨m, y, -, hy, ⟨-, rfl⟩ | ⟨l, -, rfl⟩⟩ := ofTag?_eq_ok_iff.1 h
  · exact hy
  · exact hy

/-- A section has layers exactly when it has `Blocks`. -/
theorem isSome_layers? {m : Entries String Tag} {o : Option LegacyLayers} (h : layers? m = .ok o) :
    o.isSome = (Entries.get? "Blocks" m).isSome := by
  unfold layers? at h
  unfold bytes? at h
  cases hb : Entries.get? "Blocks" m with
  | none => simp only [hb] at h; cases h; rfl
  | some t =>
    cases ha : t.byteArray? with
    | none => simp only [hb, ha] at h; cases h
    | some a =>
      simp only [hb, ha] at h
      split at h
      · split at h
        · cases h
        · split at h
          · cases h
          · cases h
            rfl
      · cases h

theorem nibbles?_of_get? {m : Entries String Tag} {key : String} {v : Vector Int8 2048}
    (h : Entries.get? key m = some (.byteArray v.toArray)) :
    nibbles? m key = .ok ⟨some (v.map Int8.toUInt8)⟩ := by
  rw [nibbles?, bytes?, h]
  show (if h : v.toArray.size = 2048 then _ else _) = _
  rw [dif_pos v.size_toArray]
  rfl

/-- Layers are read when `Blocks` has a byte for each cell and both nibble arrays are read. -/
theorem layers?_of_get? {m : Entries String Tag} {ids : Vector Int8 4096} {data add : Nibbles}
    (hids : Entries.get? "Blocks" m = some (.byteArray ids.toArray))
    (hdata : nibbles? m "Data" = .ok data) (hadd : nibbles? m "Add" = .ok add) :
    layers? m = .ok (some ⟨ids.map Int8.toUInt8, data, add⟩) := by
  rw [layers?, bytes?, hids]
  show (if h : ids.toArray.size = 4096 then _ else _) = _
  rw [dif_pos ids.size_toArray, hdata, hadd]
  rfl

end Section

theorem isSome_getLast?_filter {α : Type} {p : α → Bool} {l : List α} :
    (l.filter p).getLast?.isSome ↔ ∃ a ∈ l, p a = true := by
  constructor
  · intro h
    obtain ⟨a, ha⟩ := Option.isSome_iff_exists.1 h
    exact ⟨a, List.mem_filter.1 (List.mem_of_getLast? ha)⟩
  · rintro ⟨a, ha, hpa⟩
    rw [Option.isSome_iff_ne_none, Ne, List.getLast?_eq_none_iff]
    exact List.ne_nil_of_mem (List.mem_filter.2 ⟨ha, hpa⟩)

theorem eraseDups_concat {α : Type} [DecidableEq α] (l : List α) (a : α) :
    (l ++ [a]).eraseDups = if a ∈ l then l.eraseDups else l.eraseDups ++ [a] := by
  rw [List.eraseDups_append]
  by_cases h : a ∈ l
  · simp [List.removeAll, h]
  · simp [List.removeAll, List.eraseDups_cons, h]

/-- `t` is in the list, for height `y`, and nothing behind it is. -/
def LastListed (tags : List Tag) (y : Fin 16) (t : Tag) : Prop :=
  ∃ before after, tags = before ++ t :: after ∧ Section.y? t = .ok y ∧
    ∀ u ∈ after, Section.y? u ≠ .ok y

namespace Chunk

/-! ## placing sections -/

/-- A section whose place is taken is reported and put there all the same. -/
theorem place_cons_eq_ok_iff {x z : Int32} {index : Nat} {t : Tag} {r : List Tag}
    {out placed : Vector (Option Section) 16} {log log' : Array Event} :
    place x z index (t :: r) out log = .ok placed log' ↔ ∃ s, Section.ofTag? t = .ok s ∧
      place x z (index + 1) r (out.set s.y.val (some s) s.y.isLt)
        (if (out.get s.y).isSome then log.push (.duplicateSection s.y x z) else log) =
          .ok placed log' := by
  rw [place]
  cases hs : Section.ofTag? t with
  | error e =>
    simp only [reduceCtorEq, false_and, exists_false, iff_false]
    intro h
    obtain ⟨u, mid, -, ht⟩ := Attempt.bind_eq_ok.1 h
    exact Attempt.throw_ne_ok ht
  | ok s =>
    simp only [Except.ok.injEq, exists_eq_left']
    by_cases hd : (out.get s.y).isSome
    · rw [if_pos hd, if_pos hd]
      rfl
    · rw [if_neg hd, if_neg hd]

theorem ofTag?_of_place {x z : Int32} {index : Nat} {tags : List Tag}
    {out placed : Vector (Option Section) 16} {log log' : Array Event}
    (h : place x z index tags out log = .ok placed log') :
    ∀ t ∈ tags, ∃ s, Section.ofTag? t = .ok s := by
  induction tags generalizing index out log with
  | nil => exact fun t ht => absurd ht List.not_mem_nil
  | cons u r ih =>
    obtain ⟨s, hs, hr⟩ := place_cons_eq_ok_iff.1 h
    intro t ht
    rcases List.mem_cons.1 ht with rfl | ht
    · exact ⟨s, hs⟩
    · exact ih hr t ht

/-- Placing reports nothing but places that were taken. -/
theorem place_events {x z : Int32} {index : Nat} {tags : List Tag}
    {out placed : Vector (Option Section) 16} {log log' : Array Event}
    (h : place x z index tags out log = .ok placed log') :
    ∃ events, log' = log ++ events ∧ ∀ e ∈ events, ∃ y, e = .duplicateSection y x z := by
  induction tags generalizing index out log with
  | nil =>
    obtain ⟨-, rfl⟩ := Attempt.pure_eq_ok.1 h
    exact ⟨#[], Array.append_empty.symm, by simp⟩
  | cons u r ih =>
    obtain ⟨s, -, hr⟩ := place_cons_eq_ok_iff.1 h
    obtain ⟨events, hlog, hevents⟩ := ih hr
    split at hlog
    · refine ⟨#[.duplicateSection s.y x z] ++ events, ?_, fun e he => ?_⟩
      · rw [hlog, Array.push_eq_append, Array.append_assoc]
      · rcases Array.mem_append.1 he with he | he
        · exact ⟨s.y, by simpa using he⟩
        · exact hevents e he
    · exact ⟨events, hlog, hevents⟩

/-- A height that is not listed keeps what it had; of those listed for it the last one counts. -/
theorem get_place {x z : Int32} {index : Nat} {tags : List Tag}
    {out placed : Vector (Option Section) 16} {log log' : Array Event}
    (h : place x z index tags out log = .ok placed log') (y : Fin 16) :
    ((∀ t ∈ tags, Section.y? t ≠ .ok y) ∧ placed.get y = out.get y) ∨
      ∃ t s, LastListed tags y t ∧ Section.ofTag? t = .ok s ∧ placed.get y = some s := by
  induction tags generalizing index out log with
  | nil =>
    obtain ⟨rfl, -⟩ := Attempt.pure_eq_ok.1 h
    exact .inl ⟨fun t ht => absurd ht List.not_mem_nil, rfl⟩
  | cons u r ih =>
    obtain ⟨s, hs, hr⟩ := place_cons_eq_ok_iff.1 h
    obtain ⟨hnot, hget⟩ | ⟨t, s', ⟨before, after, hl, hy, hafter⟩, hs', hget⟩ := ih hr
    · by_cases hy : s.y = y
      · refine .inr ⟨u, s, ⟨[], r, rfl, ?_, hnot⟩, hs, ?_⟩
        · rw [← hy]
          exact Section.y?_of_ofTag? hs
        · rw [hget, ← hy, Table.get_set_self]
      · refine .inl ⟨fun t ht => ?_, ?_⟩
        · rcases List.mem_cons.1 ht with rfl | ht
          · rw [Section.y?_of_ofTag? hs]
            exact fun e => hy (Except.ok.inj e)
          · exact hnot t ht
        · rw [hget, Table.get_set_ne _ (Ne.symm hy)]
    · exact .inr ⟨t, s', ⟨u :: before, after, by rw [hl]; rfl, hy, hafter⟩, hs', hget⟩

theorem mem_of_lastListed {tags : List Tag} {y : Fin 16} {t : Tag} (h : LastListed tags y t) :
    t ∈ tags := by
  obtain ⟨before, after, rfl, -, -⟩ := h
  exact List.mem_append_right before List.mem_cons_self

theorem lastListed_unique {tags : List Tag} {y : Fin 16} {t u : Tag} (ht : LastListed tags y t)
    (hu : LastListed tags y u) : t = u := by
  obtain ⟨b₁, a₁, h₁, hy₁, n₁⟩ := ht
  obtain ⟨b₂, a₂, h₂, hy₂, n₂⟩ := hu
  rw [h₁] at h₂
  obtain ⟨c, hb, hc⟩ | ⟨c, hb, hc⟩ := List.append_eq_append_iff.1 h₂
  · cases c with
    | nil => exact (List.cons.inj hc).1
    | cons w c =>
      obtain ⟨-, rfl⟩ := List.cons.inj hc
      exact absurd hy₂ (n₁ u (by simp))
  · cases c with
    | nil => exact (List.cons.inj hc).1.symm
    | cons w c =>
      obtain ⟨-, rfl⟩ := List.cons.inj hc
      exact absurd hy₁ (n₂ t (by simp))

/-- Of two sections for two heights each counts. -/
theorem lastListed_pair {t u : Tag} {y z : Fin 16} (ht : Section.y? t = .ok y)
    (hu : Section.y? u = .ok z) (hyz : y ≠ z) :
    LastListed [t, u] y t ∧ LastListed [t, u] z u := by
  refine ⟨⟨[], [u], rfl, ht, fun v hv => ?_⟩, ⟨[t], [], rfl, hu, fun v hv => ?_⟩⟩
  · rw [List.mem_singleton.1 hv, hu]
    exact fun h => hyz (Except.ok.inj h).symm
  · exact absurd hv List.not_mem_nil

/-- **The section kept for a height is the last one listed for it.** -/
theorem get_placed {x z : Int32} {tags : List Tag} {placed : Vector (Option Section) 16}
    {log log' : Array Event}
    (h : place x z 0 tags (Vector.replicate 16 none) log = .ok placed log') {y : Fin 16}
    {s : Section} :
    placed.get y = some s ↔ ∃ t, LastListed tags y t ∧ Section.ofTag? t = .ok s := by
  obtain ⟨hnot, hget⟩ | ⟨t, s', ht, hs', hget⟩ := get_place h y
  · rw [hget, Table.get_replicate]
    refine ⟨nofun, ?_⟩
    rintro ⟨t, ⟨before, after, rfl, hy, -⟩, -⟩
    exact absurd hy (hnot t (by simp))
  · rw [hget, Option.some.injEq]
    constructor
    · rintro rfl
      exact ⟨t, ht, hs'⟩
    · rintro ⟨u, hu, hs⟩
      rw [lastListed_unique hu ht, hs', Except.ok.injEq] at hs
      exact hs

/-! ## decoding a level -/

theorem coordinate?_congr {level₁ level₂ : Tag} {key : String}
    (h : level₁.get? key = level₂.get? key) : coordinate? level₁ key = coordinate? level₂ key := by
  rw [coordinate?, h, coordinate?]

theorem list?_congr {level₁ level₂ : Tag} {key : String}
    (h : level₁.get? key = level₂.get? key) : list? level₁ key = list? level₂ key := by
  rw [list?, h, list?]

theorem list?_of_get? {level : Tag} {key : String} {l : List Tag}
    (h : level.get? key = some (.list l)) : list? level key = .ok l := by
  rw [list?, h]
  rfl

/-- the sections after their upgrade -/
def decodeSections (sections : Vector (Option Section) 16) : Vector (Option Section) 16 :=
  sections.map (Option.map Section.decode)

/-- the sides that the sections touch together -/
def sidesOf (sections : Vector (Option Section) 16) : Sides :=
  (sections.toList.filterMap id).foldl (fun sides s => sides ∪ s.sides) ∅

theorem upgradeSections_eq (sections : Vector (Option Section) 16) :
    upgradeSections sections = (decodeSections sections, sidesOf sections) := by
  have hsections : (sections.map (Option.map Section.upgrade)).map (Option.map Prod.fst) =
      decodeSections sections := by
    rw [Vector.map_map, Option.map_comp_map]
    rfl
  have hkept : (sections.map (Option.map Section.upgrade)).toList.filterMap id =
      (sections.toList.filterMap id).map Section.upgrade := by
    rw [Vector.toList_map, List.filterMap_map, List.map_filterMap]
    rfl
  rw [upgradeSections, hsections, hkept, List.foldl_map]
  rfl

/-- what each step of reading a level gave -/
structure Decoding (level : Tag) (log log' : Array Event) (c : Chunk) where
  all : Entries String Tag
  records : List Tag
  tags : List Tag
  placed : Vector (Option Section) 16
  /-- the events after the block entities -/
  between : Array Event
  level_eq : level = .compound all
  x_eq : coordinate? level "xPos" = .ok c.x
  z_eq : coordinate? level "zPos" = .ok c.z
  records_eq : list? level "TileEntities" = .ok records
  tags_eq : list? level "Sections" = .ok tags
  entities_eq : BlockEntities.ofRecords c.x c.z records log = .ok c.entities between
  placed_eq : place c.x c.z 0 tags (Vector.replicate 16 none) between = .ok placed log'
  sides_eq : c.sides = sidesOf placed
  sections_eq : c.sections = decodeSections placed
  fromAlpha_eq :
    c.fromAlpha = ((level.get? "convertedFromAlphaFormat").bind Tag.bool?).getD false
  fields_eq : c.fields = Entries.erase "TileEntities" (Entries.erase "Sections" all)
  consumed_eq : c.consumed = 0

theorem decode_eq_ok_iff {level : Tag} {log log' : Array Event} {c : Chunk} :
    decode level log = .ok c log' ↔ Nonempty (Decoding level log log' c) := by
  unfold decode
  constructor
  · intro h
    cases level with
    | compound all =>
      obtain ⟨m, l₁, hm, h⟩ := Attempt.bind_eq_ok.1 h
      obtain ⟨rfl, rfl⟩ := Attempt.pure_eq_ok.1 hm
      obtain ⟨x, l₂, hx, h⟩ := Attempt.bind_eq_ok.1 h
      obtain ⟨z, l₃, hz, h⟩ := Attempt.bind_eq_ok.1 h
      obtain ⟨records, l₄, hrecords, h⟩ := Attempt.bind_eq_ok.1 h
      obtain ⟨entities, l₅, hentities, h⟩ := Attempt.bind_eq_ok.1 h
      obtain ⟨tags, l₆, htags, h⟩ := Attempt.bind_eq_ok.1 h
      obtain ⟨placed, l₇, hplaced, h⟩ := Attempt.bind_eq_ok.1 h
      obtain ⟨rfl, rfl⟩ := Attempt.pure_eq_ok.1 h
      obtain ⟨hx', rfl⟩ := Attempt.liftExcept_eq_ok.1 hx
      obtain ⟨hz', rfl⟩ := Attempt.liftExcept_eq_ok.1 hz
      obtain ⟨hrecords', rfl⟩ := Attempt.liftExcept_eq_ok.1 hrecords
      obtain ⟨htags', rfl⟩ := Attempt.liftExcept_eq_ok.1 htags
      exact ⟨⟨all, records, tags, placed, l₅, rfl, hx', hz', hrecords', htags', hentities,
        hplaced, congrArg Prod.snd (upgradeSections_eq placed),
        congrArg Prod.fst (upgradeSections_eq placed), rfl, rfl, rfl⟩⟩
    | _ =>
      obtain ⟨m, mid, hm, -⟩ := Attempt.bind_eq_ok.1 h
      exact absurd hm Attempt.throw_ne_ok
  · rintro ⟨d⟩
    obtain ⟨x, z, sides, sections, entities, fromAlpha, fields, consumed⟩ := c
    obtain ⟨all, records, tags, placed, between, rfl, hx, hz, hrecords, htags, hentities,
      hplaced, hsides, hsections, halpha, hfields, hconsumed⟩ := d
    subst hsides hsections halpha hfields hconsumed
    refine Attempt.bind_eq_ok.2 ⟨all, log, rfl, ?_⟩
    refine Attempt.bind_eq_ok.2 ⟨x, log, Attempt.liftExcept_eq_ok.2 ⟨hx, rfl⟩, ?_⟩
    refine Attempt.bind_eq_ok.2 ⟨z, log, Attempt.liftExcept_eq_ok.2 ⟨hz, rfl⟩, ?_⟩
    refine Attempt.bind_eq_ok.2 ⟨records, log, Attempt.liftExcept_eq_ok.2 ⟨hrecords, rfl⟩, ?_⟩
    refine Attempt.bind_eq_ok.2 ⟨entities, between, hentities, ?_⟩
    refine Attempt.bind_eq_ok.2 ⟨tags, between, Attempt.liftExcept_eq_ok.2 ⟨htags, rfl⟩, ?_⟩
    refine Attempt.bind_eq_ok.2 ⟨placed, log', hplaced, ?_⟩
    rw [upgradeSections_eq]
    rfl

/-- The chunk of a level is the decoded one after the rules have run. -/
theorem ofLevel_eq_ok_iff {level : Tag} {log log' : Array Event} {c : Chunk} :
    ofLevel level log = .ok c log' ↔ ∃ c₀ mid, decode level log = .ok c₀ mid ∧
      c = (c₀.settle mid).1 ∧ log' = (c₀.settle mid).2.push c.summary := by
  unfold ofLevel
  constructor
  · intro h
    obtain ⟨c₀, mid, hc, h⟩ := Attempt.bind_eq_ok.1 h
    obtain ⟨c₁, mid', hs, h⟩ := Attempt.bind_eq_ok.1 h
    obtain ⟨u, mid'', hr, h⟩ := Attempt.bind_eq_ok.1 h
    obtain ⟨rfl, rfl⟩ := Attempt.pure_eq_ok.1 h
    have hs' : EStateM.Result.ok (c₀.settle mid).1 (c₀.settle mid).2 = .ok c₁ mid' := hs
    rw [EStateM.Result.ok.injEq] at hs'
    obtain ⟨rfl, rfl⟩ := hs'
    exact ⟨c₀, mid, hc, rfl, Attempt.report_eq_ok.1 hr⟩
  · rintro ⟨c₀, mid, hc, rfl, rfl⟩
    exact Attempt.bind_eq_ok.2 ⟨c₀, mid, hc, rfl⟩

/-! ## levels of nothing but sections -/

theorem exists_place (x z : Int32) {tags : List Tag} (h : ∀ t ∈ tags, ∃ s, Section.ofTag? t = .ok s)
    (index : Nat) (out : Vector (Option Section) 16) (log : Array Event) :
    ∃ placed log', place x z index tags out log = .ok placed log' := by
  induction tags generalizing index out log with
  | nil => exact ⟨out, log, rfl⟩
  | cons t r ih =>
    obtain ⟨s, hs⟩ := h t List.mem_cons_self
    obtain ⟨placed, log', hr⟩ := ih (fun u hu => h u (List.mem_cons_of_mem t hu)) (index + 1)
      (out.set s.y.val (some s) s.y.isLt)
      (if (out.get s.y).isSome then log.push (.duplicateSection s.y x z) else log)
    exact ⟨placed, log', place_cons_eq_ok_iff.2 ⟨s, hs, hr⟩⟩

/-- A level is read when its coordinates, its block entities and its sections are. -/
theorem exists_decode {level : Tag} {all : Entries String Tag} {x z : Int32}
    {records tags : List Tag} {b : BlockEntities} {log between : Array Event}
    (hlevel : level = .compound all) (hx : coordinate? level "xPos" = .ok x)
    (hz : coordinate? level "zPos" = .ok z) (hrecords : list? level "TileEntities" = .ok records)
    (hb : BlockEntities.ofRecords x z records log = .ok b between)
    (htags : list? level "Sections" = .ok tags)
    (hread : ∀ t ∈ tags, ∃ s, Section.ofTag? t = .ok s) :
    ∃ c log', decode level log = .ok c log' := by
  obtain ⟨placed, log', hplaced⟩ := exists_place x z hread 0 (Vector.replicate 16 none) between
  exact ⟨⟨x, z, sidesOf placed, decodeSections placed, b, _, _, 0⟩, log',
    decode_eq_ok_iff.2 ⟨⟨all, records, tags, placed, between, hlevel, hx, hz, hrecords, htags, hb,
      hplaced, rfl, rfl, rfl, rfl, rfl⟩⟩⟩

theorem exists_ofLevel_of_decode {level : Tag} {log : Array Event}
    (h : ∃ c log', decode level log = .ok c log') : ∃ c log', ofLevel level log = .ok c log' := by
  obtain ⟨c, mid, hc⟩ := h
  exact ⟨_, _, ofLevel_eq_ok_iff.2 ⟨c, mid, hc, rfl, rfl⟩⟩

theorem ofTag?_of_mem_pair {t u : Tag} (ht : ∃ s, Section.ofTag? t = .ok s)
    (hu : ∃ s, Section.ofTag? u = .ok s) : ∀ v ∈ [t, u], ∃ s, Section.ofTag? v = .ok s := by
  rw [List.forall_mem_cons, List.forall_mem_singleton]
  exact ⟨ht, hu⟩

def levelOf (tags : List Tag) : Tag := .compound [("Sections", .list tags)]

/-- Such a level is read when each of its sections is. -/
theorem exists_decode_levelOf {tags : List Tag} (h : ∀ t ∈ tags, ∃ s, Section.ofTag? t = .ok s)
    (log : Array Event) : ∃ c log', decode (levelOf tags) log = .ok c log' :=
  exists_decode rfl rfl rfl rfl rfl rfl h

theorem exists_ofLevel_levelOf {tags : List Tag} (h : ∀ t ∈ tags, ∃ s, Section.ofTag? t = .ok s)
    (log : Array Event) : ∃ c log', ofLevel (levelOf tags) log = .ok c log' :=
  exists_ofLevel_of_decode (exists_decode_levelOf h log)

/-- a section that has only its height and its block ids -/
def sectionOf (y : Fin 16) (ids : Vector Int8 4096) : Tag :=
  .compound [("Blocks", .byteArray ids.toArray), ("Y", .byte (Int8.ofNat y.val))]

/-- A height of the chunk, written as a byte, is read as that height. -/
theorem y?_of_get? {t : Tag} {y : Fin 16} (ht : t.get? "Y" = some (.byte (Int8.ofNat y.val))) :
    Section.y? t = .ok y := by
  have h : (Int8.ofNat y.val).toInt64.toInt = y.val := by
    clear ht
    revert y
    decide
  have hy : 0 ≤ (Int8.ofNat y.val).toInt64.toInt ∧ (Int8.ofNat y.val).toInt64.toInt < 16 := by
    omega
  rw [Section.y?, ht]
  show (if h : 0 ≤ (Int8.ofNat y.val).toInt64.toInt ∧ (Int8.ofNat y.val).toInt64.toInt < 16 then
    Except.ok (⟨(Int8.ofNat y.val).toInt64.toInt.toNat, by omega⟩ : Fin 16)
    else .error (Malformed.sectionYOutside (Int8.ofNat y.val).toInt64)) = _
  rw [dif_pos hy]
  simp only [h, Int.toNat_natCast]

theorem y?_sectionOf (y : Fin 16) (ids : Vector Int8 4096) :
    Section.y? (sectionOf y ids) = .ok y := y?_of_get? rfl

theorem ofTag?_sectionOf (y : Fin 16) (ids : Vector Int8 4096) :
    Section.ofTag? (sectionOf y ids) =
      .ok ⟨y, [("Y", .byte (Int8.ofNat y.val))],
        .legacy ⟨ids.map Int8.toUInt8, .absent, .absent⟩⟩ := by
  have hlayers := Section.layers?_of_get? (m := [("Blocks", .byteArray ids.toArray),
    ("Y", .byte (Int8.ofNat y.val))]) rfl rfl rfl
  exact Section.ofTag?_eq_ok_iff.2 ⟨_, y, rfl, y?_sectionOf y ids, .inr ⟨_, hlayers, rfl⟩⟩

theorem ofTag?_of_mem_sectionOf (y : Fin 16) (ids : Vector Int8 4096) :
    ∀ t ∈ [sectionOf y ids], ∃ s, Section.ofTag? t = .ok s := by
  intro t ht
  rw [List.mem_singleton.1 ht]
  exact ⟨_, ofTag?_sectionOf y ids⟩

/-- a section that has its height, its block ids and the data of its blocks -/
def sectionWith (y : Fin 16) (ids : Vector Int8 4096) (data : Vector Int8 2048) : Tag :=
  .compound [("Blocks", .byteArray ids.toArray), ("Data", .byteArray data.toArray),
    ("Y", .byte (Int8.ofNat y.val))]

theorem y?_sectionWith (y : Fin 16) (ids : Vector Int8 4096) (data : Vector Int8 2048) :
    Section.y? (sectionWith y ids data) = .ok y := y?_of_get? rfl

theorem ofTag?_sectionWith (y : Fin 16) (ids : Vector Int8 4096) (data : Vector Int8 2048) :
    Section.ofTag? (sectionWith y ids data) =
      .ok ⟨y, [("Y", .byte (Int8.ofNat y.val))],
        .legacy ⟨ids.map Int8.toUInt8, ⟨some (data.map Int8.toUInt8)⟩, .absent⟩⟩ := by
  have hlayers := Section.layers?_of_get? (m := [("Blocks", .byteArray ids.toArray),
    ("Data", .byteArray data.toArray), ("Y", .byte (Int8.ofNat y.val))]) rfl
      (Section.nibbles?_of_get? rfl) rfl
  exact Section.ofTag?_eq_ok_iff.2 ⟨_, y, rfl, y?_sectionWith y ids data, .inr ⟨_, hlayers, rfl⟩⟩

/-- A level of one such section is read. -/
theorem exists_ofLevel_sectionOf (y : Fin 16) (ids : Vector Int8 4096) (log : Array Event) :
    ∃ c log', ofLevel (levelOf [sectionOf y ids]) log = .ok c log' :=
  exists_ofLevel_levelOf (ofTag?_of_mem_sectionOf y ids) log

end Chunk

end Flattening
