import Flattening.Proofs.Chunk.SectionKey
import Flattening.Proofs.Tag.Reordered
import Flattening.Proofs.Traversal

/-!
# Upgrade data are read back from their tag

The number of a section is written in decimal digits and its cells as whole numbers; both are
read back as what they were.  Different sections have different keys, so the order in which the
keys come does not matter.

* `entry?_eq_some_iff`  what is read from one entry, `Says`;
* `ofTag?_eq_some_iff`  and from all of them;
* `ofTag?_of_entries`   upgrade data are read back in whatever order their sections come;
* `ofTag?_toTag`        in particular from the tag that is written;
* `tag_read_in_any_order`   and from that tag with its entries in any other order.
-/

namespace Flattening

namespace UpgradeData

/-! ## one section -/

theorem byteOfText?_toString (y : UInt8) : byteOfText? (toString y.toNat) = some y :=
  byteOfText?_eq_some_iff.2 (spells_toString y)

theorem toString_inj {y z : UInt8} (h : toString y.toNat = toString z.toNat) : y = z := by
  have hy := byteOfText?_toString y
  rw [h, byteOfText?_toString z, Option.some.injEq] at hy
  exact hy.symm

theorem toInt_cell (c : UInt16) : (Int32.ofNat c.toNat).toInt = c.toNat := by
  have hlt := c.toNat_lt
  exact Int32.toInt_ofNat_of_lt (by omega)

theorem cell?_eq_some_iff {n : Int32} {c : UInt16} :
    cell? n = some c ↔ n = Int32.ofNat c.toNat := by
  rw [cell?, Option.ite_none_right_eq_some, Option.some.injEq]
  constructor
  · rintro ⟨⟨hlo, hhi⟩, rfl⟩
    have hlt : n.toInt.toNat < 65536 := by omega
    rw [← Int32.toInt_inj, toInt_cell, UInt16.toNat_ofNat_of_lt' hlt, Int.toNat_of_nonneg hlo]
  · rintro rfl
    have hlt := c.toNat_lt
    rw [toInt_cell, Int.toNat_natCast, UInt16.ofNat_toNat]
    exact ⟨by omega, rfl⟩

theorem cells?_eq_some_iff {t : Tag} {cells : List UInt16} :
    cells? t = some cells ↔ t = cellsTag cells := by
  cases t
  case intArray a =>
    have hlist : a.toList.mapM cell? = some cells ↔
        a.toList = cells.map fun c => Int32.ofNat c.toNat :=
      mapM_eq_some_iff_map fun _ _ => cell?_eq_some_iff
    rw [cellsTag, Tag.intArray.injEq, ← Array.toList_inj]
    exact hlist
  all_goals exact iff_of_false (fun h => by cases h) (fun h => by cases h)

/-- what an entry says: its key is one of the spellings of a section, its value holds the cells -/
def Says (p : String × Tag) (q : UInt8 × List UInt16) : Prop :=
  Spells q.1 p.1 ∧ p.2 = cellsTag q.2

theorem entry?_eq_some_iff {p : String × Tag} {q : UInt8 × List UInt16} :
    entry? p = some q ↔ Says p q := by
  obtain ⟨y, cells⟩ := q
  rw [Says, ← byteOfText?_eq_some_iff, ← cells?_eq_some_iff]
  constructor
  · intro h
    obtain ⟨cells', hcells, h⟩ := Option.bind_eq_some_iff.1 h
    obtain ⟨y', hy, h⟩ := Option.bind_eq_some_iff.1 h
    cases h
    exact ⟨hy, hcells⟩
  · rintro ⟨hy, hcells⟩
    unfold entry?
    rw [hcells, hy]
    rfl

/-- the entry of a section in the tag -/
def entryTag (p : UInt8 × List UInt16) : String × Tag := (toString p.1.toNat, cellsTag p.2)

theorem says_entryTag (q : UInt8 × List UInt16) : Says (entryTag q) q := ⟨spells_toString q.1, rfl⟩

/-! ## all sections -/

/-- **What upgrade data are read from**: a number for the sides and, under each key, the cells of
the section that the key names. -/
theorem ofTag?_eq_some_iff {t : Tag} {d : UpgradeData} :
    ofTag? t = some d ↔ ∃ sides n l lists, t.get? "Sides" = some sides ∧
      sides.integer? = some n ∧ t.get? "Indices" = some (.compound l) ∧
      List.Forall₂ Says l lists ∧ ofLists ⟨n.toInt8.toUInt8⟩ lists = d := by
  have hentries : ∀ (l : Entries String Tag) lists,
      l.mapM entry? = some lists ↔ List.Forall₂ Says l lists := by
    intro l lists
    rw [mapM_eq_some_iff]
    simp only [entry?_eq_some_iff]
  constructor
  · intro h
    obtain ⟨sides, hsides, h⟩ := Option.bind_eq_some_iff.1 h
    obtain ⟨n, hn, h⟩ := Option.bind_eq_some_iff.1 h
    obtain ⟨indices, hindices, h⟩ := Option.bind_eq_some_iff.1 h
    obtain ⟨l, hl, h⟩ := Option.bind_eq_some_iff.1 h
    obtain ⟨lists, hlists, h⟩ := Option.bind_eq_some_iff.1 h
    cases h
    cases indices <;> cases hl
    exact ⟨sides, n, l, lists, hsides, hn, hindices, (hentries l lists).1 hlists, rfl⟩
  · rintro ⟨sides, n, l, lists, hsides, hn, hindices, hlists, rfl⟩
    unfold ofTag?
    simp only [hsides, hn, hindices, Tag.entries?, Option.bind_eq_bind, Option.bind_some,
      (hentries l lists).2 hlists]
    rfl

theorem ofLists_of_perm {d : UpgradeData} {lists : List (UInt8 × List UInt16)}
    (h : lists.Perm d.indices) : ofLists d.sides lists = d := by
  obtain ⟨sides, indices, hasc⟩ := d
  have hn : (lists.map Prod.fst).Nodup :=
    (h.map Prod.fst).nodup_iff.2 (Entries.nodup_of_ascending hasc)
  have hindices : Entries.ofList lists = indices := by
    rw [Entries.ofList_perm hn h, Entries.ofList_of_ascending hasc]
  show UpgradeData.mk sides (Entries.ofList lists) _ = _
  simp only [hindices]

/-- **Upgrade data are read back**, in whatever order the sections come in the tag. -/
theorem ofTag?_of_entries {d : UpgradeData} {t : Tag} {l : Entries String Tag}
    (hsides : t.get? "Sides" = some (.byte d.sides.bits.toInt8))
    (hindices : t.get? "Indices" = some (.compound l)) (hl : l.Perm (d.indices.map entryTag)) :
    ofTag? t = some d := by
  obtain ⟨lists, hp, rfl⟩ := exists_perm_of_map_perm hl
  have hsays : List.Forall₂ Says (lists.map entryTag) lists :=
    List.forall₂_map_left_iff.2 (List.forall₂_same.2 fun q _ => says_entryTag q)
  have hbits : (⟨d.sides.bits.toInt8.toInt64.toInt8.toUInt8⟩ : Sides) = d.sides := by
    rw [Int8.toInt8_toInt64, UInt8.toUInt8_toInt8]
  refine ofTag?_eq_some_iff.2 ⟨_, _, _, lists, hsides, rfl, hindices, hsays, ?_⟩
  rw [hbits, ofLists_of_perm hp]

theorem nodup_keys (d : UpgradeData) : ((d.indices.map entryTag).map Prod.fst).Nodup := by
  have hn := Entries.nodup_of_ascending d.ascending
  have hkeys : (d.indices.map entryTag).map Prod.fst =
      (d.indices.map Prod.fst).map fun y => toString y.toNat := by
    rw [List.map_map, List.map_map]
    rfl
  rw [hkeys, List.Nodup, List.pairwise_map]
  exact hn.imp fun hne heq => hne (toString_inj heq)

/-- **The tag that is written gives back what it was made from.** -/
theorem ofTag?_toTag (d : UpgradeData) : ofTag? d.toTag = some d := by
  have hsides : d.toTag.get? "Sides" = some (.byte d.sides.bits.toInt8) := by
    rw [toTag, Tag.get?_insert_ne (by decide)]
    rfl
  have hindices : d.toTag.get? "Indices" =
      some (.compound (Entries.ofList (d.indices.map entryTag))) := rfl
  exact ofTag?_of_entries hsides hindices (Entries.perm_ofList d.nodup_keys)

/-- the entries of the tag that is written -/
def tagEntries (d : UpgradeData) : Entries String Tag :=
  Entries.insert "Indices" d.indicesTag [("Sides", .byte d.sides.bits.toInt8)]

theorem nodup_keys_tagEntries (d : UpgradeData) : (d.tagEntries.map Prod.fst).Nodup :=
  Entries.nodup_of_ascending (Entries.ascending_insert _ _ (List.pairwise_singleton _ _))

/-- **Upgrade data survive their tag.**  Any sides, any sections and any cells in them are read
back from the tag that is written, in whatever order the entries of its compounds come. -/
theorem tag_read_in_any_order (d : UpgradeData) {w : Tag} (hw : Tag.Reorders d.toTag w) :
    ofTag? w = some d := by
  have hroot : Tag.Reorders (.compound d.tagEntries) w := hw
  have hsides : Entries.get? "Sides" d.tagEntries = some (.byte d.sides.bits.toInt8) := by
    rw [tagEntries, Entries.get?_insert_ne (by decide)]
    rfl
  have hindices : Entries.get? "Indices" d.tagEntries = some d.indicesTag :=
    Entries.get?_insert_self _ _ _
  obtain ⟨sides, hs, hsides⟩ := hroot.exists_get? d.nodup_keys_tagEntries hsides
  obtain ⟨indices, hi, hindices⟩ := hroot.exists_get? d.nodup_keys_tagEntries hindices
  rw [hsides.eq_of_leaf ⟨rfl, rfl⟩] at hs
  have hleaf : ∀ p ∈ Entries.ofList (d.indices.map entryTag), p.2.IsLeaf := by
    intro p hp
    obtain ⟨q, -, rfl⟩ := List.mem_map.1 (Entries.mem_of_mem_ofList hp)
    exact ⟨rfl, rfl⟩
  obtain ⟨l, rfl, hl⟩ := hindices.perm_of_leaves _ rfl hleaf
  exact ofTag?_of_entries hs hi (hl.symm.trans (Entries.perm_ofList d.nodup_keys))

/-- the last side, the last number that a key can name, and the last cell number -/
def lastOfAll : UpgradeData := ofLists .northWest [(0, []), (255, [65535, 0])]

/-- the tag of these with all entries the other way round -/
def lastOfAllReversed : Tag :=
  .compound [("Sides", .byte (-128)),
    ("Indices", .compound [("255", .intArray #[65535, 0]), ("0", .intArray #[])])]

theorem tag_read_in_any_order_reversed :
    Tag.Reorders lastOfAll.toTag lastOfAllReversed ∧
      ofTag? lastOfAllReversed = some lastOfAll := by
  have htag : lastOfAll.toTag = .compound
      [("Indices", .compound [("0", .intArray #[]), ("255", .intArray #[65535, 0])]),
        ("Sides", .byte (-128))] := by
    rfl
  have hw : Tag.Reorders lastOfAll.toTag lastOfAllReversed := by
    rw [htag]
    exact .trans (.entry [] _ "Indices" (.perm (.swap _ _ []))) (.perm (.swap _ _ []))
  exact ⟨hw, lastOfAll.tag_read_in_any_order hw⟩

end UpgradeData

end Flattening
