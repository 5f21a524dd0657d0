import Flattening.Legacy.Catalogue
import Mathlib.Data.List.Basic
import Mathlib.Data.Nat.Bitwise

/-!
# What a set of block ids holds

A set holds an id when the id's bit is there.  Setting the bit of one id leaves all others as
they were, so a set built from a list holds the ids of the list and no others.

* `contains_iff_testBit`   a block id is one bit of one word;
* `contains_insert`        one more block id;
* `contains_ofIds`         a list of them;
* `isSensitive_iff`        the blocks whose shape follows their neighbours are those listed.
-/

namespace Flattening.Legacy

namespace IdSet

theorem toNat_bit (id : Nat) : (bit id).toNat = 2 ^ (id % 64) := by
  have hlt : id % 64 < 64 := Nat.mod_lt id (by decide)
  have hpow : 2 ^ (id % 64) < 2 ^ 64 := Nat.pow_lt_pow_right (by decide) hlt
  have hamount : (UInt64.ofNat (id % 64)).toNat = id % 64 := UInt64.toNat_ofNat_of_lt' (by
    show id % 64 < 2 ^ 64
    omega)
  rw [bit, UInt64.toNat_shiftLeft, hamount, Nat.mod_eq_of_lt hlt, UInt64.toNat_one,
    Nat.one_shiftLeft, Nat.mod_eq_of_lt hpow]

/-- A block id is one bit of one word. -/
theorem contains_iff_testBit (s : IdSet) (id : Nat) :
    s.contains id = true ↔ (s.words.get (word id)).toNat.testBit (id % 64) = true := by
  rw [contains, bne_iff_ne, Ne, ← UInt64.toNat_inj, UInt64.toNat_and, toNat_bit, Nat.and_two_pow]
  cases (s.words.get (word id)).toNat.testBit (id % 64) with
  | true => simp
  | false => simp

theorem testBit_bit (a b : Nat) :
    (bit a).toNat.testBit (b % 64) = true ↔ a % 64 = b % 64 := by
  rw [toNat_bit, Nat.testBit_two_pow, decide_eq_true_eq]

theorem word_eq_iff {a b : Nat} : word a = word b ↔ a % 4096 / 64 = b % 4096 / 64 := by
  rw [word, word, Fin.mk.injEq]

theorem contains_insert (s : IdSet) (a b : Nat) :
    (s.insert a).contains b = true ↔ s.contains b = true ∨ a % 4096 = b % 4096 := by
  rw [contains_iff_testBit, contains_iff_testBit]
  by_cases hw : word b = word a
  · -- one word: the ids differ in its bits, if they do
    have hsame := word_eq_iff.1 hw
    have hbits : a % 64 = b % 64 ↔ a % 4096 = b % 4096 := by omega
    rw [insert, hw, Table.get_set_self, UInt64.toNat_or, Nat.testBit_or, Bool.or_eq_true,
      testBit_bit, hbits]
  · have hne : a % 4096 ≠ b % 4096 := fun h => hw (word_eq_iff.2 (by rw [h]))
    rw [insert, Table.get_set_ne s.words hw, or_iff_left hne]

theorem not_contains_empty (id : Nat) : ¬ empty.contains id = true := by
  have hget : empty.words.get (word id) = 0 := by
    show (Vector.replicate 64 (0 : UInt64))[(word id).val] = 0
    simp
  rw [contains_iff_testBit, hget]
  simp

/-- **A set built from a list holds the ids of the list**, and no others. -/
theorem contains_ofIds (ids : List Nat) (id : Nat) :
    (ofIds ids).contains id = true ↔ ∃ a ∈ ids, a % 4096 = id % 4096 := by
  have hall : ∀ (ids : List Nat) (s : IdSet), (ids.foldl insert s).contains id = true ↔
      s.contains id = true ∨ ∃ a ∈ ids, a % 4096 = id % 4096 := by
    intro ids
    induction ids with
    | nil => simp
    | cons a ids ih =>
      intro s
      rw [List.foldl_cons, ih, contains_insert, or_assoc, List.exists_mem_cons_iff]
  rw [ofIds, hall, or_iff_right (not_contains_empty id)]

end IdSet

/-- The blocks whose shape follows their neighbours are those listed. -/
theorem isSensitive_iff {block : Nat} (h : block < 4096) :
    isSensitive block = true ↔ block ∈ sensitiveBlocks := by
  have hlisted : ∀ a ∈ sensitiveBlocks, a % 4096 = a := by decide
  rw [isSensitive, sensitiveSet, IdSet.contains_ofIds, Nat.mod_eq_of_lt h]
  constructor
  · rintro ⟨a, ha, rfl⟩
    rw [hlisted a ha]
    exact ha
  · intro hb
    exact ⟨block, hb, hlisted block hb⟩

end Flattening.Legacy
