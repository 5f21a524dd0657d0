import Flattening.Tag.Writer
import Flattening.Tag.Reader
import Mathlib.Algebra.Ring.Nat

/-!
# The nodes of a tag

A tag is a tree.  What a file can hold is said node by node: nothing that the writer refuses, no
end mark below the root, not too deep, and the entries of every compound in key order.

* `induction_parts`      what holds of a tag when it holds of its parts holds of every tag;
* `forall_nodeAt_iff`    the nodes of a tag are the tag and the nodes of its parts;
* `storable_iff`, `fits_succ_iff`, `ordered_iff`   what is said of all nodes, said of the parts;
* `Reorders`             the same tag with the entries of its compounds in another order;
* `Reorders.storable`, `Reorders.fits`   reordering changes neither.
-/

namespace Flattening.Tag

/-! ## parts -/

/-- the elements of a list, the values of a compound -/
def parts : Tag → List Tag
  | .list l => l
  | .compound m => m.map Prod.snd
  | _ => []

theorem sizeOf_lt_of_mem_parts {t u : Tag} (h : u ∈ t.parts) : sizeOf u < sizeOf t := by
  cases t with
  | list l =>
    have hl := List.sizeOf_lt_of_mem (show u ∈ l from h)
    rw [list.sizeOf_spec]
    omega
  | compound m =>
    obtain ⟨⟨k, v⟩, hm, rfl⟩ := List.mem_map.1 h
    have hl := List.sizeOf_lt_of_mem hm
    have hp : sizeOf (k, v) = 1 + sizeOf k + sizeOf v := rfl
    rw [compound.sizeOf_spec]
    dsimp only
    omega
  | _ => exact absurd h List.not_mem_nil

theorem kind_eq_endMark_iff {t : Tag} : t.kind = .endMark ↔ t = .endMark := by
  constructor
  · intro h
    cases t with
    | endMark => rfl
    | _ => cases h
  · rintro rfl
    rfl

/-- What holds of a tag when it holds of its parts holds of every tag. -/
theorem induction_parts {P : Tag → Prop} (step : ∀ t, (∀ u ∈ t.parts, P u) → P t) (t : Tag) :
    P t := by
  have hall : ∀ n t, sizeOf t < n → P t := by
    intro n
    induction n with
    | zero => exact fun t h => absurd h (Nat.not_lt_zero _)
    | succ n ih =>
      intro t h
      refine step t fun u hu => ih u ?_
      have := sizeOf_lt_of_mem_parts hu
      omega
  exact hall (sizeOf t + 1) t (Nat.lt_succ_self _)

/-! ## nodes -/

/-- `NodeAt t d v` says that `v` is in `t` at depth `d`; the root has depth zero. -/
inductive NodeAt : Tag → Nat → Tag → Prop where
  | root (t : Tag) : NodeAt t 0 t
  | part {t u v : Tag} {d : Nat} (hu : u ∈ t.parts) (hv : NodeAt u d v) : NodeAt t (d + 1) v

/-- What holds of all nodes holds of the root and of all nodes of the parts. -/
theorem forall_nodeAt_iff {P : Nat → Tag → Prop} {t : Tag} :
    (∀ d v, NodeAt t d v → P d v) ↔
      P 0 t ∧ ∀ u ∈ t.parts, ∀ d v, NodeAt u d v → P (d + 1) v := by
  constructor
  · intro h
    exact ⟨h 0 t (.root t), fun u hu d v hv => h (d + 1) v (.part hu hv)⟩
  · rintro ⟨h0, h⟩ d v hv
    cases hv with
    | root => exact h0
    | part hu hv => exact h _ hu _ _ hv

/-! ## what a file can hold -/

/-- What the writer refuses of a node itself: a list of tags of different kinds, a text or a
name of more than 65535 bytes, more than `2 ^ 31 - 1` elements.  An end mark has no name. -/
def Refused : Tag → Prop
  | .text s => 65535 < s.utf8ByteSize
  | .byteArray a => 2 ^ 31 - 1 < a.size
  | .intArray a => 2 ^ 31 - 1 < a.size
  | .longArray a => 2 ^ 31 - 1 < a.size
  | .list l => 2 ^ 31 - 1 < l.length ∨ ∃ u ∈ l, ∃ v ∈ l, u.kind ≠ v.kind
  | .compound m => ∃ p ∈ m, p.2 ≠ .endMark ∧ 65535 < p.1.utf8ByteSize
  | _ => False

/-- The writer refuses no node. -/
def Storable (t : Tag) : Prop := ∀ d v, NodeAt t d v → ¬Refused v

/-- There are fewer than `levels` levels below the root, and no end mark is below it. -/
def Fits (levels : Nat) (t : Tag) : Prop :=
  ∀ d v, NodeAt t d v → d < levels ∧ (0 < d → v ≠ .endMark)

/-- The entries of every compound are in key order. -/
def Ordered (t : Tag) : Prop := ∀ d m, NodeAt t d (.compound m) → Entries.Ascending m

theorem storable_iff {t : Tag} : Storable t ↔ ¬Refused t ∧ ∀ u ∈ t.parts, Storable u :=
  forall_nodeAt_iff

theorem fits_succ_iff {n : Nat} {t : Tag} :
    Fits (n + 1) t ↔ ∀ u ∈ t.parts, u ≠ .endMark ∧ Fits n u := by
  constructor
  · intro h u hu
    refine ⟨(h 1 u (.part hu (.root u))).2 Nat.one_pos, fun d v hv => ?_⟩
    have hd := h (d + 1) v (.part hu hv)
    exact ⟨Nat.lt_of_succ_lt_succ hd.1, fun _ => hd.2 (Nat.succ_pos d)⟩
  · intro h
    refine forall_nodeAt_iff.2 ⟨⟨Nat.succ_pos n, fun h0 => absurd h0 (Nat.lt_irrefl 0)⟩, ?_⟩
    intro u hu d v hv
    obtain ⟨hne, hf⟩ := h u hu
    refine ⟨Nat.succ_lt_succ (hf d v hv).1, fun _ => ?_⟩
    cases hv with
    | root => exact hne
    | part hw hv => exact (hf _ v (.part hw hv)).2 (Nat.succ_pos _)

theorem ordered_iff {t : Tag} :
    Ordered t ↔ (∀ m, t = .compound m → Entries.Ascending m) ∧ ∀ u ∈ t.parts, Ordered u := by
  constructor
  · intro h
    refine ⟨?_, fun u hu d m hm => h (d + 1) m (.part hu hm)⟩
    rintro m rfl
    exact h 0 m (.root _)
  · rintro ⟨h0, h⟩ d m hm
    cases hm with
    | root => exact h0 m rfl
    | part hu hv => exact h _ hu _ m hv

/-! ## the order of entries -/

/-- `Reorders t w` says that `w` is `t` with the entries of compounds, at any depth, in another
order. -/
inductive Reorders : Tag → Tag → Prop where
  | refl (t : Tag) : Reorders t t
  | trans {t u v : Tag} (h : Reorders t u) (h' : Reorders u v) : Reorders t v
  | element {u v : Tag} (before after : List Tag) (h : Reorders u v) :
      Reorders (.list (before ++ u :: after)) (.list (before ++ v :: after))
  | entry {u v : Tag} (before after : List (String × Tag)) (k : String) (h : Reorders u v) :
      Reorders (.compound (before ++ (k, u) :: after)) (.compound (before ++ (k, v) :: after))
  | perm {m m' : List (String × Tag)} (h : m.Perm m') : Reorders (.compound m) (.compound m')

namespace Reorders

theorem symm {t w : Tag} (h : Reorders t w) : Reorders w t := by
  induction h with
  | refl t => exact .refl t
  | trans _ _ ih ih' => exact .trans ih' ih
  | element before after _ ih => exact .element before after ih
  | entry before after k _ ih => exact .entry before after k ih
  | perm h => exact .perm h.symm

theorem kind_eq {t w : Tag} (h : Reorders t w) : w.kind = t.kind := by
  induction h with
  | refl t => rfl
  | trans _ _ ih ih' => exact ih'.trans ih
  | element | entry | perm => rfl

theorem eq_endMark_iff {t w : Tag} (h : Reorders t w) : w = .endMark ↔ t = .endMark := by
  rw [← kind_eq_endMark_iff, ← kind_eq_endMark_iff, h.kind_eq]

/-- Each node of the one is a node of the other at the same depth, reordered itself. -/
theorem exists_nodeAt {t w : Tag} (h : Reorders t w) {d : Nat} {v : Tag} (hv : NodeAt w d v) :
    ∃ u, NodeAt t d u ∧ Reorders u v := by
  induction h generalizing d v with
  | refl t => exact ⟨v, hv, .refl v⟩
  | trans _ _ ih ih' =>
    obtain ⟨u, hu, huv⟩ := ih' hv
    obtain ⟨u', hu', huu⟩ := ih hu
    exact ⟨u', hu', huu.trans huv⟩
  | element before after h ih =>
    cases hv with
    | root => exact ⟨_, .root _, .element before after h⟩
    | part hx hv =>
      rcases List.mem_append.1 hx with hx | hx
      · exact ⟨v, .part (List.mem_append_left _ hx) hv, .refl v⟩
      · rcases List.mem_cons.1 hx with rfl | hx
        · obtain ⟨u', hu', huv⟩ := ih hv
          exact ⟨u', .part (List.mem_append_right _ List.mem_cons_self) hu', huv⟩
        · exact ⟨v, .part (List.mem_append_right _ (List.mem_cons_of_mem _ hx)) hv, .refl v⟩
  | entry before after k h ih =>
    cases hv with
    | root => exact ⟨_, .root _, .entry before after k h⟩
    | part hx hv =>
      obtain ⟨p, hp, rfl⟩ := List.mem_map.1 hx
      rcases List.mem_append.1 hp with hp | hp
      · exact ⟨v, .part (List.mem_map_of_mem (List.mem_append_left _ hp)) hv, .refl v⟩
      · rcases List.mem_cons.1 hp with rfl | hp
        · obtain ⟨u', hu', huv⟩ := ih hv
          exact ⟨u', .part (List.mem_map.2 ⟨_, List.mem_append_right _ List.mem_cons_self, rfl⟩)
            hu', huv⟩
        · exact ⟨v, .part (List.mem_map_of_mem (List.mem_append_right _
            (List.mem_cons_of_mem _ hp))) hv, .refl v⟩
  | perm hp =>
    cases hv with
    | root => exact ⟨_, .root _, .perm hp⟩
    | part hx hv =>
      obtain ⟨p, hp', rfl⟩ := List.mem_map.1 hx
      exact ⟨v, .part (List.mem_map_of_mem (hp.mem_iff.2 hp')) hv, .refl v⟩

/-- Whether the writer refuses a node does not depend on the order of its entries. -/
theorem refused {t w : Tag} (h : Reorders t w) (hr : Refused t) : Refused w := by
  induction h with
  | refl t => exact hr
  | trans _ _ ih ih' => exact ih' (ih hr)
  | element before after h ih =>
    rename_i u v
    rcases hr with hr | ⟨a, ha, b, hb, hab⟩
    · refine .inl ?_
      rw [List.length_append, List.length_cons] at hr ⊢
      exact hr
    · -- each element of the one list has one of its kind in the other
      have hmem : ∀ a ∈ before ++ u :: after, ∃ a' ∈ before ++ v :: after, a'.kind = a.kind := by
        intro a ha
        rcases List.mem_append.1 ha with ha | ha
        · exact ⟨a, List.mem_append_left _ ha, rfl⟩
        · rcases List.mem_cons.1 ha with rfl | ha
          · exact ⟨v, List.mem_append_right _ List.mem_cons_self, h.kind_eq⟩
          · exact ⟨a, List.mem_append_right _ (List.mem_cons_of_mem _ ha), rfl⟩
      obtain ⟨a', ha', hka⟩ := hmem a ha
      obtain ⟨b', hb', hkb⟩ := hmem b hb
      exact .inr ⟨a', ha', b', hb', by rwa [hka, hkb]⟩
  | entry before after k h ih =>
    rename_i u v
    obtain ⟨p, hp, hne, hlong⟩ := hr
    rcases List.mem_append.1 hp with hp | hp
    · exact ⟨p, List.mem_append_left _ hp, hne, hlong⟩
    · rcases List.mem_cons.1 hp with rfl | hp
      · exact ⟨(k, v), List.mem_append_right _ List.mem_cons_self,
          fun e => hne (h.eq_endMark_iff.1 e), hlong⟩
      · exact ⟨p, List.mem_append_right _ (List.mem_cons_of_mem _ hp), hne, hlong⟩
  | perm hp =>
    obtain ⟨p, hm, hne, hlong⟩ := hr
    exact ⟨p, hp.mem_iff.1 hm, hne, hlong⟩

theorem storable {t w : Tag} (h : Reorders t w) (ht : Storable t) : Storable w := by
  intro d v hv hr
  obtain ⟨u, hu, huv⟩ := h.exists_nodeAt hv
  exact ht d u hu (huv.symm.refused hr)

theorem fits {t w : Tag} (h : Reorders t w) {n : Nat} (ht : Fits n t) : Fits n w := by
  intro d v hv
  obtain ⟨u, hu, huv⟩ := h.exists_nodeAt hv
  obtain ⟨hd, hne⟩ := ht d u hu
  exact ⟨hd, fun h0 e => hne h0 (huv.eq_endMark_iff.1 e)⟩

end Reorders

end Flattening.Tag
