import Flattening.Proofs.Chunk.UpgradeTag
import Flattening.Proofs.Entries

/-!
# Keys that name one section twice

A section has many spellings, and a tag may have entries under several of them.  Of these the last
one counts and the others are lost, so what is read then depends on the order of the entries.

* `exists_entries_of_perm`     the lists of cells in another order come from entries in that order;
* `ofTag?_insert_indices`      upgrade data with other entries;
* `lists_kept_iff`             when all lists are kept, and when their order does not matter.
-/

namespace Flattening.UpgradeData

/-- Lists in another order are read from entries in that order. -/
theorem exists_entries_of_perm {l : Entries String Tag} {lists lists' : List (UInt8 × List UInt16)}
    (h : List.Forall₂ Says l lists) (hp : lists'.Perm lists) :
    ∃ l' : Entries String Tag, l'.Perm l ∧ List.Forall₂ Says l' lists' := by
  have hflip : List.Forall₂ (flip Says) lists l := List.Forall₂.flip h
  obtain ⟨l', hsays, hl⟩ := List.perm_comp_forall₂ hp hflip
  exact ⟨l', hl, hsays.flip⟩

theorem ofTag?_insert_indices {t sides v : Tag} {n : Int64} {l : Entries String Tag}
    {lists : List (UInt8 × List UInt16)} (hsides : t.get? "Sides" = some sides)
    (hn : sides.integer? = some n) (hindices : t.get? "Indices" = some v)
    (hl : List.Forall₂ Says l lists) :
    ofTag? (t.insert "Indices" (.compound l)) = some (ofLists ⟨n.toInt8.toUInt8⟩ lists) := by
  have hsides' : (t.insert "Indices" (.compound l)).get? "Sides" = some sides := by
    rw [Tag.get?_insert_ne (by decide), hsides]
  have hindices' : (t.insert "Indices" (.compound l)).get? "Indices" = some (.compound l) := by
    cases t
    case compound m => exact Tag.get?_insert_self m "Indices" (.compound l)
    all_goals cases hindices
  exact ofTag?_eq_some_iff.2 ⟨sides, n, l, lists, hsides', hn, hindices', hl, rfl⟩

theorem ofLists_inj {sides : Sides} {lists lists' : List (UInt8 × List UInt16)} :
    ofLists sides lists' = ofLists sides lists ↔ Entries.ofList lists' = Entries.ofList lists := by
  rw [ofLists, ofLists, UpgradeData.mk.injEq, eq_self, true_and]

/-- **Which lists are kept.**  Each entry says the number of a section and its cells.  Under each
number stand the cells of the last entry that says it; there is one list for each entry just when
they all say different numbers; and their order does not matter just when those that say the same
number say the same cells. -/
theorem lists_kept_iff {t : Tag} {d : UpgradeData} (h : ofTag? t = some d) :
    ∃ l lists, t.get? "Indices" = some (.compound l) ∧ List.Forall₂ Says l lists ∧
      (∀ y, Entries.get? y d.indices = ((lists.filter fun q => q.1 = y).getLast?).map Prod.snd) ∧
      (d.indices.Perm lists ↔ (lists.map Prod.fst).Nodup) ∧
      ((∀ l' : Entries String Tag, l'.Perm l →
          ofTag? (t.insert "Indices" (.compound l')) = some d) ↔
        ∀ q ∈ lists, ∀ q' ∈ lists, q.1 = q'.1 → q = q') := by
  obtain ⟨sides, n, l, lists, hsides, hn, hindices, hsays, rfl⟩ := ofTag?_eq_some_iff.1 h
  refine ⟨l, lists, hindices, hsays, fun y => Entries.get?_ofList y lists,
    Entries.perm_ofList_iff, ?_⟩
  rw [← Entries.ofList_eq_in_any_order_iff]
  constructor
  · intro hall lists' hp
    obtain ⟨l', hl, hsays'⟩ := exists_entries_of_perm hsays hp
    have hread := hall l' hl
    rw [ofTag?_insert_indices hsides hn hindices hsays', Option.some.injEq, ofLists_inj] at hread
    exact hread
  · intro hall l' hl
    obtain ⟨lists', hsays', hp⟩ := List.perm_comp_forall₂ hl hsays
    rw [ofTag?_insert_indices hsides hn hindices hsays', ofLists_inj.2 (hall lists' hp)]

/-- two spellings of the same section, with different cells -/
def sectionTwice : Entries String Tag := [("01", cellsTag [5]), ("1", cellsTag [6])]

def tagOfSectionTwice : Tag := .compound [("Indices", .compound sectionTwice), ("Sides", .byte 0)]

theorem lists_kept_iff_twice :
    ofTag? tagOfSectionTwice = some (ofLists ∅ [(1, [6])]) ∧
      ¬ ∀ l' : Entries String Tag, l'.Perm sectionTwice →
        ofTag? (tagOfSectionTwice.insert "Indices" (.compound l')) =
          some (ofLists ∅ [(1, [6])]) := by
  have hread : ofTag? tagOfSectionTwice = some (ofLists ∅ [(1, [6])]) := by decide
  refine ⟨hread, fun hall => ?_⟩
  obtain ⟨l, lists, hl, hsays, -, -, horder⟩ := lists_kept_iff hread
  have hentries : l = sectionTwice := by
    cases hl
    rfl
  subst hentries
  have hlists : sectionTwice.mapM entry? = some lists := by
    rw [mapM_eq_some_iff]
    exact hsays.imp fun p q h => entry?_eq_some_iff.2 h
  have htwo : sectionTwice.mapM entry? = some [(1, [5]), (1, [6])] := by decide
  rw [htwo, Option.some.injEq] at hlists
  subst hlists
  exact absurd (horder.1 hall (1, [5]) (by decide) (1, [6]) (by decide) rfl) (by decide)

end Flattening.UpgradeData
