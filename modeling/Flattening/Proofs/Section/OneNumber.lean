import Flattening.Proofs.Section.BitString
import Mathlib.Algebra.BigOperators.Fin
import Mathlib.Tactic.LinearCombination
import Mathlib.Tactic.Ring
import Mathlib.Tactic.Zify

/-!
# Setting an entry is adding to one number

A packed array stands for the number of which its words are the digits, `2 ^ 64` the base.  To set
an entry is to add the difference of the values at the entry's place, so no other entry changes and
neither do the bits behind the last one.

* `number_eq_sum`     the words are the digits;
* `number_eq_split`   what is above an entry, the entry, and what is below;
* `number_write`      writing an entry adds the difference at its place;
* `Made`              the arrays that come of making one and setting entries;
* `Made.isNumber`     all of them are read and written as their number.
-/

namespace Flattening

theorem wordsNumber_eq_sum (l : List UInt64) :
    wordsNumber l = ∑ k : Fin l.length, l[k].toNat * 2 ^ (64 * k.val) := by
  induction l with
  | nil => rfl
  | cons w r ih =>
    have hdigit : ∀ k : Fin r.length, (w :: r)[k.succ].toNat * 2 ^ (64 * k.succ.val) =
        2 ^ 64 * (r[k].toNat * 2 ^ (64 * k.val)) := by
      intro k
      have hget : (w :: r)[k.succ] = r[k] := rfl
      rw [hget, Fin.val_succ, Nat.mul_succ, Nat.pow_add, Nat.mul_comm (2 ^ 64), Nat.mul_assoc]
    have hrest : ∑ k : Fin r.length, (w :: r)[k.succ].toNat * 2 ^ (64 * k.succ.val) =
        2 ^ 64 * wordsNumber r := by
      rw [ih, Finset.mul_sum]
      exact Finset.sum_congr rfl fun k _ => hdigit k
    calc wordsNumber (w :: r)
        = w.toNat * 2 ^ (64 * 0) + ∑ k : Fin r.length,
            (w :: r)[k.succ].toNat * 2 ^ (64 * k.succ.val) := by
          rw [hrest, wordsNumber_cons, Nat.mul_zero, Nat.pow_zero, Nat.mul_one, Nat.add_comm]
      _ = ∑ k : Fin (r.length + 1), (w :: r)[k].toNat * 2 ^ (64 * k.val) :=
          (Fin.sum_univ_succ fun k : Fin (r.length + 1) =>
            (w :: r)[k].toNat * 2 ^ (64 * k.val)).symm

theorem wordsNumber_replicate_zero (n : Nat) : wordsNumber (List.replicate n 0) = 0 := by
  induction n with
  | zero => rfl
  | succ n ih =>
    rw [List.replicate_succ, wordsNumber_cons, ih]
    rfl

namespace PackedArray

variable (a : PackedArray)

theorem number_eq_sum :
    a.number = ∑ k : Fin a.words.size, a.words[k].toNat * 2 ^ (64 * k.val) :=
  wordsNumber_eq_sum a.words.toList

/-! ## an entry and its surroundings -/

/-- What is above an entry, the entry itself, and what is below. -/
theorem number_eq_split (i : Nat) :
    a.number = a.number / 2 ^ (i * a.bits + a.bits) * 2 ^ (i * a.bits + a.bits) +
      a.field i * 2 ^ (i * a.bits) + a.number % 2 ^ (i * a.bits) := by
  have hlow := Nat.div_add_mod a.number (2 ^ (i * a.bits))
  have hhigh := Nat.div_add_mod (a.number / 2 ^ (i * a.bits)) (2 ^ a.bits)
  rw [Nat.div_div_eq_div_mul, ← Nat.pow_add] at hhigh
  calc a.number
      = 2 ^ (i * a.bits) * (2 ^ a.bits * (a.number / 2 ^ (i * a.bits + a.bits)) + a.field i) +
          a.number % 2 ^ (i * a.bits) := by rw [field, hhigh, hlow]
    _ = _ := by ring

/-- Writing an entry leaves the number above it alone, from any place on. -/
theorem number_write_div (i : Fin a.length) {v : Nat} (hv : v < 2 ^ a.bits) {p : Nat}
    (hp : i.val * a.bits + a.bits ≤ p) : (a.write i v).number / 2 ^ p = a.number / 2 ^ p := by
  apply Nat.eq_of_testBit_eq
  intro j
  rw [Nat.testBit_div_two_pow, Nat.testBit_div_two_pow, testBit_number_write _ _ hv,
    if_neg (by omega)]

theorem number_write_mod (i : Fin a.length) {v : Nat} (hv : v < 2 ^ a.bits) :
    (a.write i v).number % 2 ^ (i.val * a.bits) = a.number % 2 ^ (i.val * a.bits) := by
  apply Nat.eq_of_testBit_eq
  intro j
  rw [Nat.testBit_mod_two_pow, Nat.testBit_mod_two_pow, testBit_number_write _ _ hv]
  by_cases hj : j < i.val * a.bits
  · rw [if_neg (by omega)]
  · rw [decide_eq_false hj, Bool.false_and, Bool.false_and]

/-- **Writing an entry adds the difference of the values at its place.** -/
theorem number_write (i : Fin a.length) {v : Nat} (hv : v < 2 ^ a.bits) :
    ((a.write i v).number : ℤ) =
      a.number + ((v : ℤ) - a.field i.val) * 2 ^ (i.val * a.bits) := by
  have hold := a.number_eq_split i.val
  have hnew := (a.write i v).number_eq_split i.val
  rw [bits_write, field_write_self a i hv, a.number_write_div i hv (Nat.le_refl _),
    a.number_write_mod i hv] at hnew
  have hadd : (a.write i v).number + a.field i.val * 2 ^ (i.val * a.bits) =
      a.number + v * 2 ^ (i.val * a.bits) := by omega
  zify at hadd
  linear_combination hadd

/-! ## calls -/

/-- what a call of `set` leaves; one that fails leaves the array as it was -/
def afterSet (i v : Nat) : PackedArray :=
  match a.set i v with
  | .ok b => b
  | .error _ => a

theorem afterSet_of_error {i v : Nat} {e : Fault} (h : a.set i v = .error e) :
    a.afterSet i v = a := by rw [afterSet, h]

/-- The arrays of a width and a length that come of making one, empty or of words, and of any calls
of `set`. -/
inductive Made (bits length : Nat) : PackedArray → Prop where
  | zeros {a : PackedArray} (h : zeros bits length = .ok a) : Made bits length a
  | ofWords {a : PackedArray} {words : Array UInt64} (h : ofWords? bits length words = some a) :
      Made bits length a
  | set {a : PackedArray} (i v : Nat) (h : Made bits length a) : Made bits length (a.afterSet i v)

/-- The array is read and written as the number of its words. -/
structure IsNumber (bits length : Nat) (a : PackedArray) : Prop where
  bits_eq : a.bits = bits
  length_eq : a.length = length
  size_eq : a.words.size = (length * bits + 63) / 64
  /-- the digits of the number are the words -/
  number_eq : a.number = ∑ k : Fin a.words.size, a.words[k].toNat * 2 ^ (64 * k.val)
  /-- the words of an entry are there -/
  inside : ∀ i < length, i * bits / 64 < a.words.size ∧
    (64 < i * bits % 64 + bits → i * bits / 64 + 1 < a.words.size)
  get_eq : ∀ i < length, a.get i = .ok (a.number / 2 ^ (i * bits) % 2 ^ bits)
  /-- only the entry changes: none of the others, and no bit behind the last one -/
  set_eq : ∀ i < length, ∀ v < 2 ^ bits, ∃ (b : PackedArray) (old : Nat),
    a.get i = .ok old ∧ a.set i v = .ok b ∧ b.bits = bits ∧ b.length = length ∧
      b.words.size = a.words.size ∧
      (b.number : ℤ) = a.number + ((v : ℤ) - old) * 2 ^ (i * bits) ∧
      b.get i = .ok v ∧ (∀ j, j ≠ i → b.get j = a.get j) ∧
      b.number / 2 ^ (length * bits) = a.number / 2 ^ (length * bits)
  get_outside : ∀ i, length ≤ i → a.get i = .error (.indexOutOfRange i length)
  set_outside : ∀ i v, length ≤ i →
    a.set i v = .error (.indexOutOfRange i length) ∧ a.afterSet i v = a
  set_tooWide : ∀ i < length, ∀ v, 2 ^ bits ≤ v →
    a.set i v = .error (.valueTooWide v bits) ∧ a.afterSet i v = a

theorem isNumber : IsNumber a.bits a.length a where
  bits_eq := rfl
  length_eq := rfl
  size_eq := a.size_words
  number_eq := a.number_eq_sum
  inside i hi := ⟨wordIndex_lt hi, wordIndex_succ_lt hi⟩
  get_eq i hi := a.get_eq_ok hi
  set_eq i hi v hv := by
    have hset := a.set_eq_ok ⟨i, hi⟩ hv
    have hend : i * a.bits + a.bits ≤ a.length * a.bits := end_le hi
    exact ⟨a.write ⟨i, hi⟩ v, a.field i, a.get_eq_ok hi, hset, rfl, rfl, a.size_wordsWith ⟨i, hi⟩ v,
      a.number_write ⟨i, hi⟩ hv, get_set_self hset, fun j hj => get_set_ne hset hj,
      a.number_write_div ⟨i, hi⟩ hv hend⟩
  get_outside i hi := a.get_eq_error (Nat.not_lt.2 hi)
  set_outside i v hi := by
    have h := (a.set_eq_error_iff i v _).2 (.inl ⟨hi, rfl⟩)
    exact ⟨h, a.afterSet_of_error h⟩
  set_tooWide i hi v hv := by
    rw [← Nat.one_shiftLeft] at hv
    have h := (a.set_eq_error_iff i v _).2 (.inr ⟨hi, hv, rfl⟩)
    exact ⟨h, a.afterSet_of_error h⟩

namespace Made

variable {bits length : Nat} {a : PackedArray}

/-- No call changes the width or the length. -/
theorem bits_length (h : Made bits length a) : a.bits = bits ∧ a.length = length := by
  induction h with
  | zeros h =>
    unfold PackedArray.zeros at h
    split at h
    · cases h
      exact ⟨rfl, rfl⟩
    · cases h
  | ofWords h =>
    unfold ofWords? at h
    split at h
    · cases h
      exact ⟨rfl, rfl⟩
    · cases h
  | @set a i v h ih =>
    rw [afterSet]
    cases hset : a.set i v with
    | ok b =>
      obtain ⟨-, hi, rfl⟩ := set_eq_ok_iff.1 hset
      exact ih
    | error e => exact ih

end Made

theorem zeros_eq_ok {bits : Nat} (h1 : 1 ≤ bits) (h2 : bits ≤ 32) (length : Nat) :
    ∃ a, zeros bits length = .ok a ∧ a.words = Array.replicate (wordsFor bits length) 0 := by
  refine ⟨⟨bits, length, _, h1, h2, Array.size_replicate⟩, ?_, rfl⟩
  rw [zeros, dif_pos ⟨h1, h2⟩]

theorem ofWords?_eq_some {bits length : Nat} (h1 : 1 ≤ bits) (h2 : bits ≤ 32)
    {words : Array UInt64} (h : words.size = wordsFor bits length) :
    ∃ a, ofWords? bits length words = some a ∧ a.words = words := by
  refine ⟨⟨bits, length, words, h1, h2, h⟩, ?_, rfl⟩
  rw [ofWords?, dif_pos ⟨⟨h1, h2⟩, h⟩]

/-- **A packed array is one number.**  An array of a width of one to 32 bits can be made, empty or of
any words that are as many as its entries take.  However it was made and whatever was set in it, its
width, its length and the number of its words are those it was made with, entries are read as fields
of the number, and setting one adds the difference of the values at its place and changes nothing
else. -/
theorem made_isNumber {bits : Nat} (h1 : 1 ≤ bits) (h2 : bits ≤ 32) (length : Nat) :
    (∃ a, zeros bits length = .ok a ∧ a.number = 0) ∧
    (∀ words : Array UInt64, words.size = (length * bits + 63) / 64 →
      ∃ a, ofWords? bits length words = some a ∧
        a.number = ∑ k : Fin words.size, words[k].toNat * 2 ^ (64 * k.val)) ∧
    ∀ a, Made bits length a → IsNumber bits length a := by
  refine ⟨?_, fun words hwords => ?_, fun a ha => ?_⟩
  · obtain ⟨a, ha, hw⟩ := zeros_eq_ok h1 h2 length
    refine ⟨a, ha, ?_⟩
    rw [number, hw, Array.toList_replicate, wordsNumber_replicate_zero]
  · obtain ⟨a, ha, rfl⟩ := ofWords?_eq_some h1 h2 hwords
    exact ⟨a, ha, a.number_eq_sum⟩
  · obtain ⟨rfl, rfl⟩ := ha.bits_length
    exact a.isNumber

/-- entry 12 of five bits lies across the first two words, entry 26 is not there -/
theorem made_isNumber_straddling :
    (1 ≤ 5 ∧ 5 ≤ 32) ∧ ∃ a b, ofWords? 5 26 #[0xf123456789abcdef, 0xfffffffffffffffe, 3] = some a ∧
      a.get 12 = .ok 15 ∧ (a.afterSet 26 1).set 12 16 = .ok b ∧
      (b.number : ℤ) = (a.afterSet 26 1).number + (16 - 15) * 2 ^ 60 := by
  obtain ⟨-, hmake, hall⟩ := made_isNumber (show 1 ≤ 5 by decide) (show 5 ≤ 32 by decide) 26
  obtain ⟨a, ha, -⟩ := hmake #[0xf123456789abcdef, 0xfffffffffffffffe, 3] rfl
  have hmade := Made.ofWords ha
  have hsame := ((hall a hmade).set_outside 26 1 (by decide)).2
  obtain ⟨b, old, hold, hset, -, -, -, hnumber, -⟩ :=
    (hall _ (hmade.set 26 1)).set_eq 12 (by decide) 16 (by decide)
  have hget : a.get 12 = .ok 15 := by
    cases ha
    rfl
  rw [hsame, hget, Except.ok.injEq] at hold
  subst hold
  exact ⟨⟨by decide, by decide⟩, a, b, ha, hget, hset, hnumber⟩

end PackedArray

end Flattening
