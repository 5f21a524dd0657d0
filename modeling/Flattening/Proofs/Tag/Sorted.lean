import Flattening.Proofs.Entries
import Flattening.Proofs.Tag.Nodes

/-!
# A tag with its entries in key order

Reading puts the entries of a compound in key order as it takes them.  So of a tag whose entries
are written in some order, the sorted tag comes back.

* `sorted_eq_self`         a tag in key order is its own sorted tag;
* `Reorders.sorted_eq`     reordered tags have one sorted tag, if no key is there twice.
-/

namespace Flattening.Tag

mutual

/-- the tag with the entries of every compound in key order; of two with one key the later
counts -/
def sorted : Tag → Tag
  | .list l => .list (sortedParts l)
  | .compound m => .compound (Entries.ofList (sortedEntries m))
  | t => t

def sortedParts : List Tag → List Tag
  | [] => []
  | t :: r => sorted t :: sortedParts r

def sortedEntries : List (String × Tag) → List (String × Tag)
  | [] => []
  | (k, t) :: r => (k, sorted t) :: sortedEntries r

end

theorem sortedParts_eq (l : List Tag) : sortedParts l = l.map sorted := by
  induction l with
  | nil => simp [sortedParts]
  | cons t r ih => rw [sortedParts, List.map_cons, ih]

theorem sortedEntries_eq (m : List (String × Tag)) :
    sortedEntries m = m.map fun p => (p.1, sorted p.2) := by
  induction m with
  | nil => simp [sortedEntries]
  | cons p r ih =>
    obtain ⟨k, t⟩ := p
    rw [sortedEntries, List.map_cons, ih]

theorem sorted_list (l : List Tag) : sorted (.list l) = .list (l.map sorted) := by
  rw [sorted, sortedParts_eq]

theorem sorted_compound (m : List (String × Tag)) :
    sorted (.compound m) = .compound (Entries.ofList (m.map fun p => (p.1, sorted p.2))) := by
  rw [sorted, sortedEntries_eq]

theorem sorted_eq_self {t : Tag} (h : Ordered t) : sorted t = t := by
  induction t using induction_parts with
  | step t ih =>
    obtain ⟨h0, hparts⟩ := ordered_iff.1 h
    have hall : ∀ u ∈ t.parts, sorted u = u := fun u hu => ih u hu (hparts u hu)
    cases t with
    | list l =>
      have hl : l.map sorted = l := (List.map_congr_left hall).trans (List.map_id l)
      rw [sorted_list, hl]
    | compound m =>
      have hm : (m.map fun p => (p.1, sorted p.2)) = m := by
        refine (List.map_congr_left fun p hp => ?_).trans (List.map_id m)
        rw [hall p.2 (List.mem_map_of_mem hp)]
        rfl
      rw [sorted_compound, hm, Entries.ofList_of_ascending (h0 m rfl)]
    | _ => simp only [sorted]

/-! ## different keys -/

/-- No compound has two entries with one key. -/
def DistinctKeys (t : Tag) : Prop :=
  ∀ d m, NodeAt t d (.compound m) → (m.map Prod.fst).Nodup

theorem distinctKeys_iff {t : Tag} : DistinctKeys t ↔
    (∀ m, t = .compound m → (m.map Prod.fst).Nodup) ∧ ∀ u ∈ t.parts, DistinctKeys u := by
  constructor
  · intro h
    refine ⟨?_, fun u hu d m hm => h (d + 1) m (.part hu hm)⟩
    rintro m rfl
    exact h 0 m (.root _)
  · rintro ⟨h0, h⟩ d m hm
    cases hm with
    | root => exact h0 m rfl
    | part hu hv => exact h _ hu _ m hv

theorem distinctKeys_of_ordered {t : Tag} (h : Ordered t) : DistinctKeys t := fun d m hm =>
  Entries.nodup_of_ascending (h d m hm)

namespace Reorders

/-- Reordering keeps the keys of a compound, if not their order. -/
theorem keys_perm {t w : Tag} (h : Reorders t w) :
    ∀ m, t = .compound m → ∃ m', w = .compound m' ∧ (m.map Prod.fst).Perm (m'.map Prod.fst) := by
  induction h with
  | refl t => exact fun m hm => ⟨m, hm, .refl _⟩
  | trans _ _ ih ih' =>
    intro m hm
    obtain ⟨m', hm', hp⟩ := ih m hm
    obtain ⟨m'', hm'', hp'⟩ := ih' m' hm'
    exact ⟨m'', hm'', hp.trans hp'⟩
  | element => nofun
  | entry before after k h ih =>
    rintro m hm
    cases hm
    refine ⟨_, rfl, ?_⟩
    rw [List.map_append, List.map_append, List.map_cons, List.map_cons]
  | perm h =>
    rintro m hm
    cases hm
    exact ⟨_, rfl, h.map Prod.fst⟩

theorem distinctKeys {t w : Tag} (h : Reorders t w) (ht : DistinctKeys t) : DistinctKeys w := by
  intro d m hm
  obtain ⟨u, hu, hum⟩ := h.exists_nodeAt hm
  obtain ⟨m', rfl, hp⟩ := hum.symm.keys_perm m rfl
  exact hp.nodup_iff.2 (ht d m' hu)

/-- **Reordered tags have one sorted tag.** -/
theorem sorted_eq {t w : Tag} (h : Reorders t w) (ht : DistinctKeys t) : sorted w = sorted t := by
  induction h with
  | refl t => rfl
  | trans h h' ih ih' => exact (ih' (h.distinctKeys ht)).trans (ih ht)
  | element before after h ih =>
    have hu := (distinctKeys_iff.1 ht).2 _ (List.mem_append_right before List.mem_cons_self)
    rw [sorted_list, sorted_list, List.map_append, List.map_append, List.map_cons, List.map_cons,
      ih hu]
  | entry before after k h ih =>
    rename_i u v
    have hmem : u ∈ (Tag.compound (before ++ (k, u) :: after)).parts :=
      List.mem_map.2 ⟨(k, u), List.mem_append_right _ List.mem_cons_self, rfl⟩
    have hu := (distinctKeys_iff.1 ht).2 u hmem
    rw [sorted_compound, sorted_compound, List.map_append, List.map_append, List.map_cons,
      List.map_cons, ih hu]
  | perm h =>
    rename_i m m'
    have hn : ((m.map fun p => (p.1, sorted p.2)).map Prod.fst).Nodup := by
      rw [List.map_map]
      exact (distinctKeys_iff.1 ht).1 m rfl
    rw [sorted_compound, sorted_compound, Entries.ofList_perm hn (h.map _)]

end Reorders

end Flattening.Tag
