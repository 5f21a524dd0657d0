import Flattening.Proofs.Tag.Sorted

/-!
# Looking into a reordered tag

A tag without parts has nothing that could be reordered.  A compound whose keys differ holds
the same under each of them, in whatever order its entries come.

* `Reorders.eq_of_leaf`         a tag without parts stays as it is;
* `Reorders.exists_get?`        under each key stands what stood there, reordered itself;
* `Reorders.perm_of_leaves`     entries without parts change their order and nothing else.
-/

namespace Flattening.Tag

/-- neither a list nor a compound -/
def IsLeaf (t : Tag) : Prop := t.list? = none ∧ t.entries? = none

namespace Reorders

theorem eq_of_leaf {t w : Tag} (h : Reorders t w) (ht : t.IsLeaf) : w = t := by
  induction h with
  | refl t => rfl
  | trans _ _ ih ih' =>
    obtain rfl := ih ht
    exact ih' ht
  | element => exact absurd ht.1 (Option.some_ne_none _)
  | entry => exact absurd ht.2 (Option.some_ne_none _)
  | perm => exact absurd ht.2 (Option.some_ne_none _)

/-- Each entry is there under its key, reordered itself. -/
theorem exists_mem {t w : Tag} (h : Reorders t w) : ∀ m, t = .compound m →
    ∃ m', w = .compound m' ∧ ∀ p ∈ m, ∃ v, (p.1, v) ∈ m' ∧ Reorders p.2 v := by
  induction h with
  | refl t => exact fun m hm => ⟨m, hm, fun p hp => ⟨p.2, hp, .refl p.2⟩⟩
  | trans _ _ ih ih' =>
    intro m hm
    obtain ⟨m', hm', hmem⟩ := ih m hm
    obtain ⟨m'', hm'', hmem'⟩ := ih' m' hm'
    refine ⟨m'', hm'', fun p hp => ?_⟩
    obtain ⟨v, hv, hpv⟩ := hmem p hp
    obtain ⟨v', hv', hvv⟩ := hmem' (p.1, v) hv
    exact ⟨v', hv', hpv.trans hvv⟩
  | element => nofun
  | entry before after k h _ =>
    rintro m hm
    cases hm
    refine ⟨_, rfl, fun p hp => ?_⟩
    rcases List.mem_append.1 hp with hp | hp
    · exact ⟨p.2, List.mem_append_left _ hp, .refl p.2⟩
    · rcases List.mem_cons.1 hp with rfl | hp
      · exact ⟨_, List.mem_append_right _ List.mem_cons_self, h⟩
      · exact ⟨p.2, List.mem_append_right _ (List.mem_cons_of_mem _ hp), .refl p.2⟩
  | perm h =>
    rintro m hm
    cases hm
    exact ⟨_, rfl, fun p hp => ⟨p.2, h.mem_iff.1 hp, .refl p.2⟩⟩

theorem exists_get? {m : Entries String Tag} {w : Tag} (h : Reorders (.compound m) w)
    (hm : (m.map Prod.fst).Nodup) {k : String} {u : Tag} (hu : Entries.get? k m = some u) :
    ∃ v, w.get? k = some v ∧ Reorders u v := by
  obtain ⟨m', rfl, hmem⟩ := h.exists_mem m rfl
  obtain ⟨m'', heq, hkeys⟩ := h.keys_perm m rfl
  cases heq
  obtain ⟨v, hv, huv⟩ := hmem (k, u) (Entries.mem_of_get? hu)
  exact ⟨v, (Entries.get?_eq_some_iff (hkeys.nodup_iff.1 hm)).2 hv, huv⟩

theorem perm_of_leaves {t w : Tag} (h : Reorders t w) : ∀ m, t = .compound m →
    (∀ p ∈ m, p.2.IsLeaf) → ∃ m', w = .compound m' ∧ m.Perm m' := by
  induction h with
  | refl t => exact fun m hm _ => ⟨m, hm, .refl m⟩
  | trans _ _ ih ih' =>
    intro m hm hleaf
    obtain ⟨m', hm', hp⟩ := ih m hm hleaf
    obtain ⟨m'', hm'', hp'⟩ := ih' m' hm' fun p hmem => hleaf p (hp.mem_iff.2 hmem)
    exact ⟨m'', hm'', hp.trans hp'⟩
  | element => nofun
  | entry before after k h _ =>
    rintro m hm hleaf
    cases hm
    rw [h.eq_of_leaf (hleaf _ (List.mem_append_right _ List.mem_cons_self))]
    exact ⟨_, rfl, .refl _⟩
  | perm h =>
    rintro m hm -
    cases hm
    exact ⟨_, rfl, h⟩

end Reorders

end Flattening.Tag
