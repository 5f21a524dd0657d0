import Flattening.Block.Tags
import Flattening.Proofs.Entries
import Flattening.Proofs.Tag.Readable

/-!
# Block states that can be written

A state can be written when its texts are short enough to be.  Setting a property to a short
text and giving a short name keep it so.

* `brief_ofPairs`, `Brief.withProperty`, `Brief.renamed`   how states are made;
* `Brief.readable_toTag`   the tag of such a state is readable.
-/

namespace Flattening.BlockState

/-- The name, the keys and the values have at most 65535 bytes. -/
structure Brief (s : BlockState) : Prop where
  name : s.name.utf8ByteSize ≤ 65535
  properties : ∀ p ∈ s.properties, p.1.utf8ByteSize ≤ 65535 ∧ p.2.utf8ByteSize ≤ 65535

variable {s : BlockState}

/-! ## making states -/

theorem brief_ofPairs {name : String} {pairs : List (String × String)}
    (hn : name.utf8ByteSize ≤ 65535)
    (hp : ∀ p ∈ pairs, p.1.utf8ByteSize ≤ 65535 ∧ p.2.utf8ByteSize ≤ 65535) :
    (ofPairs name pairs).Brief :=
  ⟨hn, fun p h => hp p (Entries.mem_of_mem_ofList h)⟩

theorem brief_plain {name : String} (hn : name.utf8ByteSize ≤ 65535) : (plain name).Brief :=
  ⟨hn, fun _ h => absurd h List.not_mem_nil⟩

theorem brief_air : air.Brief := brief_plain (by decide)

theorem Brief.withProperty (h : s.Brief) {k v : String} (hk : k.utf8ByteSize ≤ 65535)
    (hv : v.utf8ByteSize ≤ 65535) : (s.withProperty k v).Brief := by
  refine ⟨h.name, fun p hp => ?_⟩
  rcases Entries.mem_insert hp with rfl | hp
  · exact ⟨hk, hv⟩
  · exact h.properties p hp

theorem Brief.renamed (h : s.Brief) {name : String} (hn : name.utf8ByteSize ≤ 65535) :
    (s.renamed name).Brief :=
  ⟨hn, h.properties⟩

theorem Brief.property? (h : s.Brief) {k v : String} (hv : s.property? k = some v) :
    v.utf8ByteSize ≤ 65535 :=
  (h.properties (k, v) (Entries.mem_of_get? hv)).2

/-! ## the tag of a state -/

theorem Brief.readable_propertiesTag (h : s.Brief) (n : Nat) :
    Tag.Readable (n + 2) s.propertiesTag := by
  refine Tag.readable_compound_iff.2 ⟨?_, fun p hp => ?_⟩
  · exact List.pairwise_map.2 s.ascending
  · obtain ⟨q, hq, rfl⟩ := List.mem_map.1 hp
    obtain ⟨hk, hv⟩ := h.properties q hq
    exact ⟨hk, by simp, Tag.readable_leaf rfl (Nat.not_lt.2 hv)⟩

/-- **The tag of a state whose texts are short is readable**, and has three levels. -/
theorem Brief.readable_toTag (h : s.Brief) (n : Nat) : Tag.Readable (n + 3) s.toTag := by
  have hk : "Name".utf8ByteSize ≤ 65535 := by decide
  have hname : Tag.Readable (n + 2) (.text s.name) :=
    Tag.readable_leaf rfl (Nat.not_lt.2 h.name)
  have hplain : Tag.Readable (n + 3) (.compound [("Name", .text s.name)]) := by
    refine Tag.readable_compound_iff.2 ⟨List.pairwise_singleton _ _, fun p hp => ?_⟩
    rw [List.mem_singleton.1 hp]
    exact ⟨hk, by simp, hname⟩
  rw [toTag]
  split
  · exact hplain
  · have hinsert : [("Name", Tag.text s.name), ("Properties", s.propertiesTag)] =
        Entries.insert "Properties" s.propertiesTag [("Name", .text s.name)] := by
      rw [Entries.insert_cons]
      rfl
    rw [hinsert]
    exact hplain.insert (h.readable_propertiesTag n) (by simp [propertiesTag]) (by decide)

theorem kind_toTag (s : BlockState) : s.toTag.kind = .compound := by
  rw [toTag]
  split <;> rfl

end Flattening.BlockState
