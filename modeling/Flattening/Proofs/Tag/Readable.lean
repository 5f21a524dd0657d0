import Flattening.Proofs.Tag.Nodes

/-!
# Tags that reading can give

A tag is readable when it could have come out of a file: it can be written, has a place at its
depth, and is in key order.  What follows says this level by level, and what the operations on
compounds keep of it.

* `readable_succ_iff`       a readable tag is sound itself and has readable parts;
* `readable_list_iff`, `readable_compound_iff`   lists and compounds;
* `Readable.of_get?`        what a readable compound holds is readable;
* `Readable.insert`, `Readable.erase`   a readable compound stays readable.
-/

namespace Flattening.Tag

structure Readable (levels : Nat) (t : Tag) : Prop where
  storable : Storable t
  fits : Fits levels t
  ordered : Ordered t

theorem readable_succ_iff {n : Nat} {t : Tag} :
    Readable (n + 1) t ↔ ¬Refused t ∧ (∀ m, t = .compound m → Entries.Ascending m) ∧
      ∀ u ∈ t.parts, u ≠ .endMark ∧ Readable n u := by
  constructor
  · rintro ⟨hs, hf, ho⟩
    obtain ⟨hr, hs⟩ := storable_iff.1 hs
    obtain ⟨hm, ho⟩ := ordered_iff.1 ho
    have hf := fits_succ_iff.1 hf
    exact ⟨hr, hm, fun u hu => ⟨(hf u hu).1, hs u hu, (hf u hu).2, ho u hu⟩⟩
  · rintro ⟨hr, hm, h⟩
    exact ⟨storable_iff.2 ⟨hr, fun u hu => (h u hu).2.storable⟩,
      fits_succ_iff.2 fun u hu => ⟨(h u hu).1, (h u hu).2.fits⟩,
      ordered_iff.2 ⟨hm, fun u hu => (h u hu).2.ordered⟩⟩

/-- A tag without parts needs only one level. -/
theorem readable_leaf {n : Nat} {t : Tag} (hp : t.parts = []) (hr : ¬Refused t) :
    Readable (n + 1) t := by
  refine readable_succ_iff.2 ⟨hr, fun m hm => ?_, fun u hu => ?_⟩
  · rw [hm] at hp
    rw [List.map_eq_nil_iff.1 hp]
    exact Entries.ascending_nil
  · rw [hp] at hu
    exact absurd hu List.not_mem_nil

variable {n : Nat}

theorem readable_list_iff {l : List Tag} :
    Readable (n + 1) (.list l) ↔ l.length ≤ 2 ^ 31 - 1 ∧ (∀ u ∈ l, ∀ v ∈ l, u.kind = v.kind) ∧
      ∀ u ∈ l, u ≠ .endMark ∧ Readable n u := by
  have hrefused : ¬Refused (.list l) ↔
      l.length ≤ 2 ^ 31 - 1 ∧ ∀ u ∈ l, ∀ v ∈ l, u.kind = v.kind := by
    rw [Refused, not_or, Nat.not_lt]
    refine and_congr_right' ⟨fun h u hu v hv => ?_, ?_⟩
    · exact Decidable.byContradiction fun hne => h ⟨u, hu, v, hv, hne⟩
    · rintro h ⟨u, hu, v, hv, hne⟩
      exact hne (h u hu v hv)
  rw [readable_succ_iff, hrefused, and_assoc]
  exact and_congr_right' (and_congr_right' ⟨fun h => h.2, fun h => ⟨nofun, h⟩⟩)

theorem readable_compound_iff {m : Entries String Tag} :
    Readable (n + 1) (.compound m) ↔ Entries.Ascending m ∧
      ∀ p ∈ m, p.1.utf8ByteSize ≤ 65535 ∧ p.2 ≠ .endMark ∧ Readable n p.2 := by
  rw [readable_succ_iff]
  constructor
  · rintro ⟨hr, hm, hparts⟩
    refine ⟨hm m rfl, fun p hp => ?_⟩
    have hpart := hparts p.2 (List.mem_map_of_mem hp)
    exact ⟨Nat.not_lt.1 fun hlong => hr ⟨p, hp, hpart.1, hlong⟩, hpart⟩
  · rintro ⟨hm, h⟩
    refine ⟨?_, ?_, fun u hu => ?_⟩
    · rintro ⟨p, hp, -, hlong⟩
      exact absurd hlong (Nat.not_lt.2 (h p hp).1)
    · rintro m' ⟨⟩
      exact hm
    · obtain ⟨p, hp, rfl⟩ := List.mem_map.1 hu
      exact (h p hp).2

namespace Readable

variable {m : Entries String Tag} {k : String} {v t : Tag}

/-- What a readable compound holds is readable, one level below. -/
theorem of_get? (h : Readable (n + 1) t) (hv : t.get? k = some v) :
    v ≠ .endMark ∧ Readable n v := by
  cases t with
  | compound m => exact ((readable_compound_iff.1 h).2 (k, v) (Entries.mem_of_get? hv)).2
  | _ => cases hv

theorem insert (h : Readable (n + 1) (.compound m)) (hv : Readable n v) (hne : v ≠ .endMark)
    (hk : k.utf8ByteSize ≤ 65535) :
    Readable (n + 1) (.compound (Entries.insert k v m)) := by
  obtain ⟨hm, hall⟩ := readable_compound_iff.1 h
  refine readable_compound_iff.2 ⟨Entries.ascending_insert k v hm, fun p hp => ?_⟩
  rcases Entries.mem_insert hp with rfl | hp
  · exact ⟨hk, hne, hv⟩
  · exact hall p hp

theorem erase (h : Readable (n + 1) (.compound m)) (k : String) :
    Readable (n + 1) (.compound (Entries.erase k m)) := by
  obtain ⟨hm, hall⟩ := readable_compound_iff.1 h
  refine readable_compound_iff.2 ⟨Entries.ascending_erase k hm, fun p hp => ?_⟩
  exact hall p (Entries.mem_erase.1 hp).1

end Readable

end Flattening.Tag
