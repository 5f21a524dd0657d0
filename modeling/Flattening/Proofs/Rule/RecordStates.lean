import Flattening.Proofs.Entries
import Flattening.Proofs.Legacy.Names
import Flattening.Proofs.Rule.Records

/-!
# What a block entity says of its block

A record comes from a file, so under each key there may be anything or nothing.  Only whole numbers
count, cut to 32 bits.  Here is said for each kind of block which state `out` it has by the state
`s` of its number and the record `r`, whatever stands in the record; no number leads out of range.

* `recordInt?_eq`        which numbers count;
* `noteBlockFollows`     a note block keeps its instrument, and its note is in range;
* `recoloured_bed`, `recoloured_banner`, `recoloured_wallBanner`
  beds and banners take a colour that there is, or stay as they are;
* `skullFollows`         a skull is a head of a kind that there is, turned as far as there are turns;
* `flowerPotFollows`     a pot holds a plant that fits, or nothing;
* `followsRecord`        all kinds by their block ids.
-/

namespace Flattening

/-! ## whole numbers -/

/-- the whole number under a key, cut to 32 bits -/
def wholeNumber? (r : Tag) (key : String) : Option Int :=
  ((r.get? key).bind Tag.integer?).map fun n => n.toInt.bmod (2 ^ 32)

theorem recordInt?_eq (r : Tag) (key : String) : recordInt? r key = wholeNumber? r key := by
  have hcut : (Int32.toInt ∘ Int64.toInt32) = fun n : Int64 => n.toInt.bmod (2 ^ 32) := by
    funext n
    exact Int64.toInt_toInt32 n
  rw [recordInt?, wholeNumber?, ← hcut]
  cases r.get? key with
  | none => rfl
  | some t =>
    rw [Option.bind_some, Option.bind_some, Tag.int32?, Option.map_map]

/-! ## note blocks -/

/-- A note block keeps its instrument; note and power are those of the record. -/
structure NoteBlockFollows (s : BlockState) (r : Tag) (out : BlockState) : Prop where
  name_eq : out.name = "minecraft:note_block"
  keys_eq : out.properties.map Prod.fst = ["instrument", "note", "powered"]
  instrument_eq : out.property? "instrument" = s.property? "instrument"
  note_eq : out.property? "note" =
    some (toString (max 0 (min 24 ((wholeNumber? r "note").getD 0))).toNat)
  powered_eq : out.property? "powered" =
    some (if ((r.get? "powered").bind Tag.integer?).any (· != 0) then "true" else "false")

theorem noteBlockFollows {s : BlockState} (hs : (s.property? "instrument").isSome) (r : Tag) :
    NoteBlockFollows s r (Rule.noteBlockState s r) := by
  obtain ⟨instrument, hinstrument⟩ := Option.isSome_iff_exists.1 hs
  have hproperties : (Rule.noteBlockState s r).properties =
      [("instrument", s.propertyD "instrument" "harp"),
        ("note", toString (Rule.clamp 0 24 ((recordInt? r "note").getD 0)).toNat),
        ("powered", boolText (((r.get? "powered").bind Tag.bool?).getD false))] := by
    refine Entries.ofList_of_ascending (List.pairwise_map.1 ?_)
    show ["instrument", "note", "powered"].Pairwise fun a b => a < b
    decide
  have hproperty : ∀ key, (Rule.noteBlockState s r).property? key = Entries.get? key
      [("instrument", s.propertyD "instrument" "harp"),
        ("note", toString (Rule.clamp 0 24 ((recordInt? r "note").getD 0)).toNat),
        ("powered", boolText (((r.get? "powered").bind Tag.bool?).getD false))] := fun key => by
    rw [BlockState.property?, hproperties]
  refine ⟨rfl, by rw [hproperties]; rfl, (hproperty _).trans ?_, (hproperty _).trans ?_,
    (hproperty _).trans ?_⟩
  · show some (s.propertyD "instrument" "harp") = _
    rw [BlockState.propertyD, hinstrument, Option.getD_some]
  · rw [recordInt?_eq]
    rfl
  · show some (boolText (((r.get? "powered").bind Tag.bool?).getD false)) = _
    cases r.get? "powered" with
    | none => rfl
    | some t =>
      rw [Option.bind_some, Option.bind_some, Tag.bool?]
      cases t.integer? with
      | none => rfl
      | some n => rfl

/-! ## beds and banners -/

/-- The colour with the number goes into the name; without such a colour nothing changes. -/
structure Recoloured (s : BlockState) (number? : Option Int) (suffix : String) (out : BlockState) :
    Prop where
  of_colour : ∀ n : Fin 16, number? = some (n.val : Int) →
    out = s.renamed ("minecraft:" ++ dyeNames.get n ++ suffix)
  of_no_colour : (∀ n : Fin 16, number? ≠ some (n.val : Int)) → out = s

theorem dyeName?_of_fin (n : Fin 16) : dyeName? n.val = some (dyeNames.get n) := by
  revert n
  decide

theorem dyeName?_eq_none {n : Int} (h : ∀ k : Fin 16, n ≠ k.val) : dyeName? n = none := by
  rw [← Option.not_isSome_iff_eq_none, dyeName?_isSome_iff]
  rintro ⟨hlow, hhigh⟩
  exact h ⟨n.toNat, by omega⟩ (Int.toNat_of_nonneg hlow).symm

theorem renamed_name (s : BlockState) : s.renamed s.name = s := rfl

/-- A block that has one of the colours anyway may leave that one alone. -/
theorem recoloured_of_plain {s : BlockState} {plain : Fin 16} {suffix : String}
    (hs : s.name = "minecraft:" ++ dyeNames.get plain ++ suffix) (number? : Option Int) :
    Recoloured s number? suffix
      ((if number?.getD plain.val = plain.val then none
        else (dyeName? (number?.getD plain.val)).map fun dye =>
          s.renamed ("minecraft:" ++ dye ++ suffix)).getD s) := by
  constructor
  · rintro n rfl
    rw [Option.getD_some]
    by_cases hn : (n.val : Int) = plain.val
    · obtain rfl : n = plain := Fin.ext (Int.ofNat.inj hn)
      rw [if_pos rfl, Option.getD_none, ← hs, renamed_name]
    · rw [if_neg hn, dyeName?_of_fin]
      rfl
  · intro hno
    cases number? with
    | none => rw [Option.getD_none, if_pos rfl, Option.getD_none]
    | some n =>
      have hn : ∀ k : Fin 16, n ≠ k.val := fun k h => hno k (congrArg some h)
      rw [Option.getD_some, if_neg (hn plain), dyeName?_eq_none hn]
      rfl

/-- Beds are red until their record says otherwise. -/
theorem recoloured_bed {s : BlockState} (hs : s.name = "minecraft:red_bed") (r : Tag) :
    Recoloured s (wholeNumber? r "color") "_bed" ((Rule.bedState? s r).getD s) := by
  have hbed : s.nameEndsWith "_bed" = true := by
    rw [BlockState.nameEndsWith, hs]
    decide +kernel
  have hred : s.name = "minecraft:" ++ dyeNames.get 14 ++ "_bed" := by
    rw [hs]
    decide +kernel
  have hstate : Rule.bedState? s r = if (wholeNumber? r "color").getD 14 = 14 then none
      else (dyeName? ((wholeNumber? r "color").getD 14)).map fun dye =>
        s.renamed ("minecraft:" ++ dye ++ "_bed") := by
    rw [Rule.bedState?, recordInt?_eq, hbed]
    rfl
  rw [hstate]
  exact recoloured_of_plain hred _

/-- Banners are white until their record says otherwise, and their records number the colours from
the other end. -/
theorem recoloured_of_white {s : BlockState} {suffix : String}
    (hwhite : s.name = "minecraft:" ++ dyeNames.get 0 ++ suffix)
    (hsuffix : ∀ dye, (if s.nameEndsWith "_wall_banner"
      then s.renamed ("minecraft:" ++ dye ++ "_wall_banner")
      else s.renamed ("minecraft:" ++ dye ++ "_banner")) =
        s.renamed ("minecraft:" ++ dye ++ suffix)) (r : Tag) :
    Recoloured s ((wholeNumber? r "Base").map fun base => 15 - base) suffix
      ((Rule.bannerState? s r).getD s) := by
  have hnumber : ((wholeNumber? r "Base").map fun base => 15 - base).getD 0 =
      15 - (wholeNumber? r "Base").getD 15 := by
    cases wholeNumber? r "Base" with
    | none => rfl
    | some base => rfl
  have hplain : (wholeNumber? r "Base").getD 15 = 15 ↔
      15 - (wholeNumber? r "Base").getD 15 = 0 := by omega
  have hstate : Rule.bannerState? s r =
      if ((wholeNumber? r "Base").map fun base => 15 - base).getD 0 = 0 then none
      else (dyeName? (((wholeNumber? r "Base").map fun base => 15 - base).getD 0)).map fun dye =>
        s.renamed ("minecraft:" ++ dye ++ suffix) := by
    rw [Rule.bannerState?, recordInt?_eq, hnumber]
    simp only [hplain, hsuffix]
  rw [hstate]
  exact recoloured_of_plain hwhite _

theorem recoloured_banner {s : BlockState} (hs : s.name = "minecraft:white_banner") (r : Tag) :
    Recoloured s ((wholeNumber? r "Base").map fun base => 15 - base) "_banner"
      ((Rule.bannerState? s r).getD s) := by
  have hstands : s.nameEndsWith "_wall_banner" = false := by
    rw [BlockState.nameEndsWith, hs]
    decide +kernel
  refine recoloured_of_white ?_ (fun dye => ?_) r
  · rw [hs]
    decide +kernel
  · rw [hstands]
    rfl

theorem recoloured_wallBanner {s : BlockState} (hs : s.name = "minecraft:white_wall_banner")
    (r : Tag) : Recoloured s ((wholeNumber? r "Base").map fun base => 15 - base) "_wall_banner"
      ((Rule.bannerState? s r).getD s) := by
  have hhangs : s.nameEndsWith "_wall_banner" = true := by
    rw [BlockState.nameEndsWith, hs]
    decide +kernel
  refine recoloured_of_white ?_ (fun dye => ?_) r
  · rw [hs]
    decide +kernel
  · rw [hhangs]
    rfl

/-! ## skulls -/

/-- The state is a head of this kind.  On a wall it faces as before; on the floor it has one of
sixteen turns, which the record counts from zero either way. -/
inductive IsHead (s : BlockState) (r : Tag) (kind : String × String) : BlockState → Prop
  | onWall : s.name = "minecraft:skeleton_wall_skull" →
      IsHead s r kind (s.renamed ("minecraft:" ++ kind.1 ++ "_wall_" ++ kind.2))
  | onFloor {n : Nat} : s.name = "minecraft:skeleton_skull" → n < 16 →
      (n : Int) = (wholeNumber? r "Rot").getD 0 % 16 →
      IsHead s r kind
        (.ofPairs ("minecraft:" ++ kind.1 ++ "_" ++ kind.2) [("rotation", toString n)])

/-- A skull is of the kind with the number that the record has, and a skeleton's without one. -/
structure SkullFollows (s : BlockState) (r : Tag) (out : BlockState) : Prop where
  of_type : ∀ (n : Nat) kind, Rule.skullKinds[n]? = some kind →
    wholeNumber? r "SkullType" = some (n : Int) → IsHead s r kind out
  of_no_type : (∀ n : Nat, n < 6 → wholeNumber? r "SkullType" ≠ some (n : Int)) →
    IsHead s r ("skeleton", "skull") out

/-- A skull keeps nothing but where it faces. -/
theorem renamed_eq_ofPairs {s : BlockState} (h : s.properties.map Prod.fst = ["facing"])
    (name : String) :
    BlockState.ofPairs name [("facing", s.propertyD "facing" "north")] = s.renamed name := by
  obtain ⟨n, properties, ascending⟩ := s
  obtain ⟨⟨key, value⟩, rfl, hkey⟩ := List.map_eq_singleton_iff.1 h
  obtain rfl : key = "facing" := hkey
  rfl

theorem isHead_skullState {s : BlockState}
    (hs : s.name = "minecraft:skeleton_skull" ∨ (s.name = "minecraft:skeleton_wall_skull" ∧
      s.properties.map Prod.fst = ["facing"])) (r : Tag) :
    IsHead s r (Rule.skullKind r) (Rule.skullState s r) := by
  have hstate : Rule.skullState s r =
      if s.nameEndsWith "_wall_skull" || s.nameEndsWith "_wall_head" then
        .ofPairs ("minecraft:" ++ (Rule.skullKind r).1 ++ "_wall_" ++ (Rule.skullKind r).2)
          [("facing", s.propertyD "facing" "north")]
      else
        .ofPairs ("minecraft:" ++ (Rule.skullKind r).1 ++ "_" ++ (Rule.skullKind r).2)
          [("rotation", toString ((wholeNumber? r "Rot").getD 0 % 16).toNat)] := by
    rw [Rule.skullState, recordInt?_eq]
  obtain hfloor | ⟨hwall, hkeys⟩ := hs
  · have hstands : (s.nameEndsWith "_wall_skull" || s.nameEndsWith "_wall_head") = false := by
      rw [BlockState.nameEndsWith, BlockState.nameEndsWith, hfloor]
      decide +kernel
    rw [hstate, hstands]
    exact .onFloor hfloor (by omega) (Int.toNat_of_nonneg (by omega))
  · have hhangs : (s.nameEndsWith "_wall_skull" || s.nameEndsWith "_wall_head") = true := by
      rw [BlockState.nameEndsWith, BlockState.nameEndsWith, hwall]
      decide +kernel
    rw [hstate, hhangs, if_pos rfl, renamed_eq_ofPairs hkeys]
    exact .onWall hwall

theorem skullKind_of_type {r : Tag} {n : Nat} {kind : String × String}
    (hkind : Rule.skullKinds[n]? = some kind) (h : wholeNumber? r "SkullType" = some (n : Int)) :
    Rule.skullKind r = kind := by
  rw [Rule.skullKind, recordInt?_eq, h, Option.getD_some, if_pos (Int.natCast_nonneg n),
    Int.toNat_natCast, hkind, Option.getD_some]

theorem skullKind_of_no_type {r : Tag}
    (h : ∀ n : Nat, n < 6 → wholeNumber? r "SkullType" ≠ some (n : Int)) :
    Rule.skullKind r = ("skeleton", "skull") := by
  rw [Rule.skullKind, recordInt?_eq]
  cases hn : wholeNumber? r "SkullType" with
  | none => rfl
  | some n =>
    rw [Option.getD_some]
    split
    · rename_i hlow
      have hhigh : 6 ≤ n.toNat := Nat.le_of_not_lt fun hlt =>
        h n.toNat hlt (by rw [hn, Int.toNat_of_nonneg hlow])
      rw [List.getElem?_eq_none hhigh]
      rfl
    · rfl

theorem skullFollows {s : BlockState}
    (hs : s.name = "minecraft:skeleton_skull" ∨ (s.name = "minecraft:skeleton_wall_skull" ∧
      s.properties.map Prod.fst = ["facing"])) (r : Tag) :
    SkullFollows s r (Rule.skullState s r) := by
  have hhead := isHead_skullState hs r
  constructor
  · intro n kind hkind hn
    rwa [skullKind_of_type hkind hn] at hhead
  · intro hno
    rwa [skullKind_of_no_type hno] at hhead

/-! ## flower pots -/

/-- The record names this item, in full, without the game's own namespace, or by its block id. -/
inductive HoldsItem (r : Tag) : String → Prop
  | full {name : String} : r.get? "Item" = some (.text name) → ':' ∈ name.toList →
      HoldsItem r name
  | short {name : String} : r.get? "Item" = some (.text name) → ':' ∉ name.toList →
      HoldsItem r ("minecraft:" ++ name)
  | numbered {n : Nat} {name : String} : wholeNumber? r "Item" = some (n : Int) →
      Legacy.blockName? n = some name → HoldsItem r name

/-- A pot holds the plant for its item and data, and nothing if there is none. -/
structure FlowerPotFollows (r : Tag) (out : BlockState) : Prop where
  of_plant : ∀ item pot, HoldsItem r item →
    ((item, (wholeNumber? r "Data").getD 0), pot) ∈ Rule.pottedPlants → out = .plain pot
  of_no_plant : (∀ item pot, HoldsItem r item →
    ((item, (wholeNumber? r "Data").getD 0), pot) ∉ Rule.pottedPlants) →
      out = .plain "minecraft:flower_pot"

theorem potItem?_eq_some_iff {r : Tag} {item : String} :
    Rule.potItem? r = some item ↔ HoldsItem r item := by
  constructor
  · intro h
    unfold Rule.potItem? at h
    split at h
    · cases h
    · rename_i name hitem
      obtain rfl := Option.some.inj h
      unfold Rule.namespaced
      split
      · rename_i hcolon
        exact .full hitem (List.contains_iff_mem.1 hcolon)
      · rename_i hcolon
        exact .short hitem fun hmem => hcolon (List.contains_iff_mem.2 hmem)
    · rename_i t hitem
      obtain ⟨n, hn, h⟩ := Option.bind_eq_some_iff.1 h
      split at h
      · rename_i hlow
        refine .numbered (n := n.toInt.toNat) ?_ h
        rw [← recordInt?_eq, recordInt?, hitem, Option.bind_some, hn, Option.map_some,
          Int.toNat_of_nonneg hlow]
      · cases h
  · intro h
    cases h with
    | full hitem hcolon =>
      rw [Rule.potItem?, hitem]
      dsimp only
      rw [Rule.namespaced, if_pos (List.contains_iff_mem.2 hcolon)]
    | short hitem hcolon =>
      rw [Rule.potItem?, hitem]
      dsimp only
      rw [Rule.namespaced, if_neg fun hmem => hcolon (List.contains_iff_mem.1 hmem)]
    | @numbered n name hn hname =>
      rw [← recordInt?_eq, recordInt?, Option.map_eq_some_iff] at hn
      obtain ⟨m, hm, hmn⟩ := hn
      obtain ⟨t, hitem, ht⟩ := Option.bind_eq_some_iff.1 hm
      have hnumber : (if 0 ≤ m.toInt then Legacy.blockName? m.toInt.toNat else none) =
          some item := by
        rw [hmn, if_pos (Int.natCast_nonneg n), Int.toNat_natCast, hname]
      rw [Rule.potItem?, hitem]
      cases t with
      | text name => cases ht
      | _ =>
        dsimp only
        rw [ht, Option.bind_some]
        exact hnumber

theorem flowerPotFollows (r : Tag) : FlowerPotFollows r (Rule.flowerPotState r) := by
  have hnodup : (Rule.pottedPlants.map Prod.fst).Nodup := by decide +kernel
  have hstate : Rule.flowerPotState r = .plain (((Rule.potItem? r).bind fun item =>
      Entries.get? (item, (wholeNumber? r "Data").getD 0) Rule.pottedPlants).getD
        "minecraft:flower_pot") := by
    rw [Rule.flowerPotState, recordInt?_eq]
  constructor
  · intro item pot hitem hpot
    rw [hstate, potItem?_eq_some_iff.2 hitem, Option.bind_some,
      (Entries.get?_eq_some_iff hnodup).2 hpot, Option.getD_some]
  · intro hno
    have hnone : ((Rule.potItem? r).bind fun item =>
        Entries.get? (item, (wholeNumber? r "Data").getD 0) Rule.pottedPlants) = none := by
      rw [Option.bind_eq_none_iff]
      intro item hitem
      rw [Option.eq_none_iff_forall_ne_some]
      intro pot hpot
      exact hno item pot (potItem?_eq_some_iff.1 hitem) (Entries.mem_of_get? hpot)
    rw [hstate, hnone, Option.getD_none]

/-! ## by block id -/

/-- What a block makes of its record, by its block id. -/
inductive FollowsRecord (s : BlockState) (r : Tag) (out : BlockState) : Nat → Prop
  | noteBlock : NoteBlockFollows s r out → FollowsRecord s r out 25
  | bed : Recoloured s (wholeNumber? r "color") "_bed" out → FollowsRecord s r out 26
  | flowerPot : FlowerPotFollows r out → FollowsRecord s r out 140
  | skull : SkullFollows s r out → FollowsRecord s r out 144
  | banner : Recoloured s ((wholeNumber? r "Base").map fun base => 15 - base) "_banner" out →
      FollowsRecord s r out 176
  | wallBanner :
      Recoloured s ((wholeNumber? r "Base").map fun base => 15 - base) "_wall_banner" out →
      FollowsRecord s r out 177

/-- the state of a block by the state of its number and its record -/
def afterRecord (b : Nat) (s : BlockState) (r : Tag) : BlockState :=
  ((Rule.ofBlock? b).bind fun rule => rule.recordState? s r).getD s

theorem afterRecord_of_rule {b : Nat} {rule : Rule} (h : Rule.ofBlock? b = some rule)
    (s : BlockState) (r : Tag) : afterRecord b s r = (rule.recordState? s r).getD s := by
  rw [afterRecord, h, Option.bind_some]

namespace Legacy

theorem instrument_of_note_blocks :
    everyState (fun s => (s.property? "instrument").isSome) 25 = true := by decide +kernel

theorem red_beds : everyState (fun s => s.name == "minecraft:red_bed") 26 = true := by
  decide +kernel

theorem skeleton_skulls : everyState (fun s => s.name == "minecraft:skeleton_skull" ||
    (s.name == "minecraft:skeleton_wall_skull" && s.properties.map Prod.fst == ["facing"])) 144 =
      true := by decide +kernel

theorem white_banners : everyState (fun s => s.name == "minecraft:white_banner") 176 = true := by
  decide +kernel

theorem white_wall_banners :
    everyState (fun s => s.name == "minecraft:white_wall_banner") 177 = true := by decide +kernel

end Legacy

/-- **A block follows its record**, whatever the record holds. -/
theorem followsRecord {id : LegacyId} (hb : id.block ∈ Rule.recordBlocks) (r : Tag) :
    FollowsRecord (Legacy.state id) r (afterRecord id.block (Legacy.state id) r) id.block := by
  obtain ⟨b, data⟩ := id
  have hstate : ∀ {p : BlockState → Bool}, Legacy.everyState p b = true →
      p (Legacy.state ⟨b, data⟩) = true := fun h => Legacy.of_everyState (l := ⟨b, data⟩) h
  have hafter : ∀ {k : Rule}, b ∈ k.blocks → afterRecord b (Legacy.state ⟨b, data⟩) r =
      (k.recordState? (Legacy.state ⟨b, data⟩) r).getD (Legacy.state ⟨b, data⟩) :=
    fun hk => afterRecord_of_rule (Rule.ofBlock?_of_mem hk) _ r
  have hb' : b = 25 ∨ b = 26 ∨ b = 140 ∨ b = 144 ∨ b = 176 ∨ b = 177 := by
    simpa [Rule.recordBlocks] using hb
  rcases hb' with rfl | rfl | rfl | rfl | rfl | rfl
  · rw [hafter (k := .noteBlock) (by decide), Rule.recordState?, Option.getD_some]
    exact .noteBlock (noteBlockFollows (hstate Legacy.instrument_of_note_blocks) r)
  · rw [hafter (k := .bed) (by decide)]
    exact .bed (recoloured_bed (beq_iff_eq.1 (hstate Legacy.red_beds)) r)
  · rw [hafter (k := .flowerPot) (by decide), Rule.recordState?, Option.getD_some]
    exact .flowerPot (flowerPotFollows r)
  · have hs := hstate Legacy.skeleton_skulls
    rw [Bool.or_eq_true, Bool.and_eq_true, beq_iff_eq, beq_iff_eq, beq_iff_eq] at hs
    rw [hafter (k := .skull) (by decide), Rule.recordState?, Option.getD_some]
    exact .skull (skullFollows hs r)
  · rw [hafter (k := .banner) (by decide)]
    exact .banner (recoloured_banner (beq_iff_eq.1 (hstate Legacy.white_banners)) r)
  · rw [hafter (k := .banner) (by decide)]
    exact .wallBanner (recoloured_wallBanner (beq_iff_eq.1 (hstate Legacy.white_wall_banners)) r)

end Flattening
