import Flattening.Section.Packed
import Mathlib.Data.Nat.Bitwise

/-!
# A packed array is one big number

Written one behind the other, lowest first, the words of a packed array are the digits of one
number, and entry `i` is the field of `bits` bits that starts at bit `i * bits`.  Whether a
field lies across two words no longer shows.

* `testBit_number`        the bits of the number are the bits of the words;
* `testBit_entry`         an entry is its field;
* `testBit_number_write`  writing an entry changes its field and no other bit;
* `get_set_self`, `get_set_ne`   reading after writing;
* `ofList_eq_ok`          packing succeeds on numbers that fit, and keeps all of them.
-/

namespace Flattening

/-! ## the number of a list of words -/

def wordsNumber : List UInt64 → Nat
  | [] => 0
  | w :: r => 2 ^ 64 * wordsNumber r + w.toNat

theorem wordsNumber_nil : wordsNumber [] = 0 := rfl
theorem wordsNumber_cons (w : UInt64) (r : List UInt64) :
    wordsNumber (w :: r) = 2 ^ 64 * wordsNumber r + w.toNat := rfl

theorem testBit_wordsNumber (l : List UInt64) (k j : Nat) (hj : j < 64) :
    (wordsNumber l).testBit (64 * k + j) = (l[k]?.getD 0).toNat.testBit j := by
  induction l generalizing k with
  | nil => simp [wordsNumber_nil]
  | cons w r ih =>
    rw [wordsNumber_cons, Nat.testBit_two_pow_mul_add _ w.toNat_lt]
    cases k with
    | zero => simp [hj]
    | succ k =>
      have h1 : ¬64 * (k + 1) + j < 64 := by omega
      have h2 : 64 * (k + 1) + j - 64 = 64 * k + j := by omega
      rw [if_neg h1, h2, ih k]
      simp

theorem testBit_word_of_le (w : UInt64) {j : Nat} (h : 64 ≤ j) : w.toNat.testBit j = false :=
  Nat.testBit_lt_two_pow (Nat.lt_of_lt_of_le w.toNat_lt (Nat.pow_le_pow_right (by decide) h))

/-! ## shifts of words by less than a word -/

theorem toNat_shift {n : Nat} (h : n < 64) : (UInt64.ofNat n).toNat % 64 = n := by
  rw [UInt64.toNat_ofNat']
  omega

theorem testBit_shiftRight (w : UInt64) {n : Nat} (h : n < 64) (j : Nat) :
    (w >>> UInt64.ofNat n).toNat.testBit j = w.toNat.testBit (n + j) := by
  rw [UInt64.toNat_shiftRight, toNat_shift h, Nat.testBit_shiftRight]

theorem testBit_shiftLeft (w : UInt64) {n : Nat} (h : n < 64) (j : Nat) :
    (w <<< UInt64.ofNat n).toNat.testBit j =
      (decide (j < 64) && (decide (n ≤ j) && w.toNat.testBit (j - n))) := by
  rw [UInt64.toNat_shiftLeft, toNat_shift h, Nat.testBit_mod_two_pow, Nat.testBit_shiftLeft]

theorem testBit_not (w : UInt64) (j : Nat) :
    (~~~w).toNat.testBit j = (decide (j < 64) && !w.toNat.testBit j) := by
  rw [UInt64.toNat_not]
  by_cases h : j < 64
  · have hw : w.toNat < 2 ^ 64 := w.toNat_lt
    rw [show UInt64.size - 1 - w.toNat = 2 ^ 64 - (w.toNat + 1) by
      simp only [UInt64.size]; omega, Nat.testBit_two_pow_sub_succ hw]
  · have hn : UInt64.size - 1 - w.toNat < 2 ^ j := by
      have := Nat.pow_le_pow_right (show 0 < 2 by decide) (Nat.le_of_not_lt h)
      simp only [UInt64.size]
      omega
    rw [Nat.testBit_lt_two_pow hn]
    simp [h]

namespace PackedArray

variable (a : PackedArray)

/-- all words as one number -/
def number : Nat := wordsNumber a.words.toList

theorem testBit_number (p : Nat) :
    a.number.testBit p = (a.words[p / 64]?.getD 0).toNat.testBit (p % 64) := by
  have h := testBit_wordsNumber a.words.toList (p / 64) (p % 64) (Nat.mod_lt _ (by decide))
  rw [Nat.div_add_mod] at h
  rw [number, h, Array.getElem?_toList]

theorem testBit_mask (j : Nat) : a.mask.toNat.testBit j = decide (j < a.bits) := by
  have hb := a.bits_le
  have h1 : (1 <<< UInt64.ofNat a.bits : UInt64).toNat = 2 ^ a.bits := by
    rw [UInt64.toNat_shiftLeft, toNat_shift (by omega)]
    have : 2 ^ a.bits ≤ 2 ^ 32 := Nat.pow_le_pow_right (by decide) hb
    simp only [UInt64.toNat_one, Nat.one_shiftLeft]
    exact Nat.mod_eq_of_lt (by omega)
  have h2 : a.mask.toNat = 2 ^ a.bits - 1 := by
    have hle : (1 : UInt64) ≤ 1 <<< UInt64.ofNat a.bits := by
      rw [UInt64.le_iff_toNat_le, h1]
      exact Nat.one_le_two_pow
    rw [mask, UInt64.toNat_sub_of_le _ _ hle, h1]
    rfl
  rw [h2, Nat.testBit_two_pow_sub_one]

/-! ## reading an entry -/

/-- the word and the bit of it at which bit `j` of entry `i` lies -/
theorem position_low {i j : Nat} (h : a.bitOffset i + j < 64) :
    (i * a.bits + j) / 64 = a.wordIndex i ∧ (i * a.bits + j) % 64 = a.bitOffset i + j := by
  unfold bitOffset wordIndex at *
  omega

/-- the same when the entry has gone over into the next word -/
theorem position_high {i j : Nat} (h : 64 ≤ a.bitOffset i + j) (hj : j < a.bits) :
    (i * a.bits + j) / 64 = a.wordIndex i + 1 ∧
      (i * a.bits + j) % 64 = j - (64 - a.bitOffset i) := by
  have hb := a.bits_le
  unfold bitOffset wordIndex at *
  omega

theorem bitOffset_lt (i : Nat) : a.bitOffset i < 64 := Nat.mod_lt _ (by decide)

/-- **An entry is its field of the number.** -/
theorem testBit_entry (i : Fin a.length) (j : Nat) :
    (a.entry i).testBit j = (decide (j < a.bits) && a.number.testBit (i.val * a.bits + j)) := by
  have hk := wordIndex_lt i.isLt
  have ho := a.bitOffset_lt i.val
  by_cases hj : j < a.bits
  · rw [testBit_number]
    unfold entry
    simp only [UInt64.toNat_and, Nat.testBit_and, testBit_mask, hj, decide_true, Bool.and_true,
      Bool.true_and]
    by_cases hs : 64 < a.bitOffset i.val + a.bits
    · have hk' := wordIndex_succ_lt i.isLt hs
      rw [dif_pos hs, UInt64.toNat_or, Nat.testBit_or, testBit_shiftRight _ ho,
        testBit_shiftLeft _ (by have := a.bits_le; omega)]
      by_cases hw : a.bitOffset i.val + j < 64
      · obtain ⟨h1, h2⟩ := a.position_low hw
        have h3 : ¬64 - a.bitOffset i.val ≤ j := by omega
        simp [h1, h2, h3, Array.getElem?_eq_getElem hk]
      · obtain ⟨h1, h2⟩ := a.position_high (Nat.le_of_not_lt hw) hj
        have h3 : 64 - a.bitOffset i.val ≤ j := by omega
        have h4 : j < 64 := by have := a.bits_le; omega
        rw [testBit_word_of_le _ (Nat.le_of_not_lt hw)]
        simp [h1, h2, h3, h4, Array.getElem?_eq_getElem hk']
    · obtain ⟨h1, h2⟩ := a.position_low (i := i.val) (j := j) (by omega)
      rw [dif_neg hs, testBit_shiftRight _ ho, h1, h2, Array.getElem?_eq_getElem hk]
      rfl
  · unfold entry
    simp [UInt64.toNat_and, Nat.testBit_and, testBit_mask, hj]

/-- the field of bits that an entry takes -/
def field (i : Nat) : Nat := a.number / 2 ^ (i * a.bits) % 2 ^ a.bits

theorem testBit_field (i j : Nat) :
    (a.field i).testBit j = (decide (j < a.bits) && a.number.testBit (i * a.bits + j)) := by
  rw [field, Nat.testBit_mod_two_pow, Nat.testBit_div_two_pow, Nat.add_comm j]

theorem entry_eq_field (i : Fin a.length) : a.entry i = a.field i.val := by
  apply Nat.eq_of_testBit_eq
  intro j
  rw [testBit_entry, testBit_field]

/-! ## writing an entry -/

theorem testBit_value {v : Nat} (hv : v < 2 ^ a.bits) (j : Nat) :
    (UInt64.ofNat v).toNat.testBit j = v.testBit j := by
  have hb : 2 ^ a.bits ≤ 2 ^ 32 := Nat.pow_le_pow_right (by decide) a.bits_le
  rw [UInt64.toNat_ofNat', Nat.mod_eq_of_lt (by omega)]

/-- a word whose field starts at bit `o` -/
theorem testBit_low (w : UInt64) {o v : Nat} (ho : o < 64) (hv : v < 2 ^ a.bits) {r : Nat}
    (hr : r < 64) :
    ((w &&& ~~~(a.mask <<< UInt64.ofNat o)) ||| UInt64.ofNat v <<< UInt64.ofNat o).toNat.testBit r =
      if o ≤ r ∧ r < o + a.bits then v.testBit (r - o) else w.toNat.testBit r := by
  rw [UInt64.toNat_or, UInt64.toNat_and, Nat.testBit_or, Nat.testBit_and, testBit_not,
    testBit_shiftLeft _ ho, testBit_shiftLeft _ ho, testBit_mask, a.testBit_value hv]
  by_cases h1 : o ≤ r
  · by_cases h2 : r < o + a.bits
    · have h3 : r - o < a.bits := by omega
      simp [hr, h1, h2, h3]
    · have h3 : v.testBit (r - o) = false :=
        Nat.testBit_lt_two_pow (Nat.lt_of_lt_of_le hv (Nat.pow_le_pow_right (by decide) (by omega)))
      have h4 : ¬r - o < a.bits := by omega
      simp [hr, h1, h2, h3, h4]
  · simp [hr, h1]

/-- a word whose field started `n` bits before it -/
theorem testBit_high (w : UInt64) {n v : Nat} (hn : n < 64) (hv : v < 2 ^ a.bits) {r : Nat}
    (hr : r < 64) :
    ((w &&& ~~~(a.mask >>> UInt64.ofNat n)) ||| UInt64.ofNat v >>> UInt64.ofNat n).toNat.testBit r =
      if n + r < a.bits then v.testBit (n + r) else w.toNat.testBit r := by
  rw [UInt64.toNat_or, UInt64.toNat_and, Nat.testBit_or, Nat.testBit_and, testBit_not,
    testBit_shiftRight _ hn, testBit_shiftRight _ hn, testBit_mask, a.testBit_value hv]
  by_cases h : n + r < a.bits
  · simp [hr, h]
  · have h3 : v.testBit (n + r) = false :=
      Nat.testBit_lt_two_pow (Nat.lt_of_lt_of_le hv (Nat.pow_le_pow_right (by decide) (by omega)))
    simp [hr, h, h3]

/-- the words after writing, one at a time -/
theorem testBit_wordsWith (i : Fin a.length) {v : Nat} (hv : v < 2 ^ a.bits) (k r : Nat)
    (hr : r < 64) :
    ((a.wordsWith i v)[k]?.getD 0).toNat.testBit r =
      if k = a.wordIndex i.val ∧ a.bitOffset i.val ≤ r ∧ r < a.bitOffset i.val + a.bits then
        v.testBit (r - a.bitOffset i.val)
      else if k = a.wordIndex i.val + 1 ∧ 64 + r < a.bitOffset i.val + a.bits then
        v.testBit (64 + r - a.bitOffset i.val)
      else (a.words[k]?.getD 0).toNat.testBit r := by
  have hk := wordIndex_lt i.isLt
  have ho := a.bitOffset_lt i.val
  have hb := a.bits_le
  unfold wordsWith
  by_cases hs : 64 < a.bitOffset i.val + a.bits
  · have hk' := wordIndex_succ_lt i.isLt hs
    simp only [dif_pos hs]
    by_cases h1 : k = a.wordIndex i.val
    · subst h1
      have hne : ¬a.wordIndex i.val + 1 = a.wordIndex i.val := by omega
      rw [Array.getElem?_set_ne (by simpa using hk') hne, Array.getElem?_set_self hk,
        Option.getD_some, a.testBit_low _ ho hv hr, Array.getElem?_eq_getElem hk, Option.getD_some]
      grind
    · by_cases h2 : k = a.wordIndex i.val + 1
      · subst h2
        have hne : ¬a.wordIndex i.val = a.wordIndex i.val + 1 := by omega
        rw [Array.getElem?_set_self (by simpa using hk'), Option.getD_some,
          a.testBit_high _ (by omega) hv hr, Array.getElem_set_ne _ hk' hne,
          Array.getElem?_eq_getElem hk', Option.getD_some]
        have e : 64 - a.bitOffset i.val + r = 64 + r - a.bitOffset i.val := by omega
        rw [e]
        grind
      · rw [Array.getElem?_set_ne (by simpa using hk') (by omega),
          Array.getElem?_set_ne hk (by omega), if_neg (by omega), if_neg (by omega)]
  · simp only [dif_neg hs]
    by_cases h1 : k = a.wordIndex i.val
    · subst h1
      rw [Array.getElem?_set_self hk, Option.getD_some, a.testBit_low _ ho hv hr,
        Array.getElem?_eq_getElem hk, Option.getD_some]
      grind
    · rw [Array.getElem?_set_ne hk (by omega), if_neg (by omega), if_neg (by omega)]

/-- the array with one entry written -/
def write (i : Fin a.length) (v : Nat) : PackedArray :=
  ⟨a.bits, a.length, a.wordsWith i v, a.one_le_bits, a.bits_le,
    (a.size_wordsWith i v).trans a.size_words⟩

theorem set_eq_ok (i : Fin a.length) {v : Nat} (hv : v < 2 ^ a.bits) :
    a.set i.val v = .ok (a.write i v) := by
  rw [set, dif_pos i.isLt, Nat.one_shiftLeft, if_pos hv]
  rfl

/-- **Writing an entry changes its field and no other bit.** -/
theorem testBit_number_write (i : Fin a.length) {v : Nat} (hv : v < 2 ^ a.bits) (p : Nat) :
    (a.write i v).number.testBit p =
      if i.val * a.bits ≤ p ∧ p < i.val * a.bits + a.bits then v.testBit (p - i.val * a.bits)
      else a.number.testBit p := by
  have hr : p % 64 < 64 := Nat.mod_lt _ (by decide)
  have h := a.testBit_wordsWith i hv (p / 64) (p % 64) hr
  have hb := a.bits_le
  have e : a.bitOffset i.val + 64 * a.wordIndex i.val = i.val * a.bits := Nat.mod_add_div _ _
  have ho := a.bitOffset_lt i.val
  rw [testBit_number, testBit_number]
  show ((a.wordsWith i v)[p / 64]?.getD 0).toNat.testBit (p % 64) = _
  rw [h]
  by_cases h1 : p / 64 = a.wordIndex i.val ∧ a.bitOffset i.val ≤ p % 64 ∧
      p % 64 < a.bitOffset i.val + a.bits
  · rw [if_pos h1, if_pos (by omega), show p - i.val * a.bits = p % 64 - a.bitOffset i.val by omega]
  · rw [if_neg h1]
    by_cases h2 : p / 64 = a.wordIndex i.val + 1 ∧ 64 + p % 64 < a.bitOffset i.val + a.bits
    · rw [if_pos h2, if_pos (by omega),
        show p - i.val * a.bits = 64 + p % 64 - a.bitOffset i.val by omega]
    · rw [if_neg h2, if_neg (by omega)]

theorem bits_write (i : Fin a.length) (v : Nat) : (a.write i v).bits = a.bits := rfl
theorem length_write (i : Fin a.length) (v : Nat) : (a.write i v).length = a.length := rfl

theorem field_write_self (i : Fin a.length) {v : Nat} (hv : v < 2 ^ a.bits) :
    (a.write i v).field i.val = v := by
  apply Nat.eq_of_testBit_eq
  intro j
  rw [testBit_field, testBit_number_write _ _ hv, bits_write]
  by_cases hj : j < a.bits
  · simp [hj]
  · simp [hj, Nat.testBit_lt_two_pow
      (Nat.lt_of_lt_of_le hv (Nat.pow_le_pow_right (by decide) (Nat.le_of_not_lt hj)))]

/-- the fields of two entries do not meet -/
theorem field_disjoint {i e : Nat} (h : e ≠ i) (w : Nat) {j : Nat} (hj : j < w) :
    ¬(i * w ≤ e * w + j ∧ e * w + j < i * w + w) := by
  rintro ⟨h1, h2⟩
  rcases Nat.lt_or_gt_of_ne h with hlt | hgt
  · have := Nat.mul_le_mul_right w hlt
    rw [Nat.succ_mul] at this
    omega
  · have := Nat.mul_le_mul_right w hgt
    rw [Nat.succ_mul] at this
    omega

theorem field_write_ne (i : Fin a.length) {e : Nat} (h : e ≠ i.val) {v : Nat}
    (hv : v < 2 ^ a.bits) : (a.write i v).field e = a.field e := by
  apply Nat.eq_of_testBit_eq
  intro j
  rw [testBit_field, testBit_field, testBit_number_write _ _ hv, bits_write]
  by_cases hj : j < a.bits
  · rw [if_neg (field_disjoint h a.bits hj)]
  · simp [hj]

/-! ## reading and writing by number -/

theorem get_eq_ok {i : Nat} (h : i < a.length) : a.get i = .ok (a.field i) := by
  rw [get, dif_pos h, entry_eq_field]

theorem get_eq_error {i : Nat} (h : ¬i < a.length) :
    a.get i = .error (.indexOutOfRange i a.length) := by
  rw [get, dif_neg h]

variable {a} {b : PackedArray} {i v : Nat}

theorem set_eq_ok_iff :
    a.set i v = .ok b ↔ v < 2 ^ a.bits ∧ ∃ h : i < a.length, b = a.write ⟨i, h⟩ v := by
  constructor
  · intro h
    by_cases hi : i < a.length
    · by_cases hv : v < 2 ^ a.bits
      · rw [a.set_eq_ok ⟨i, hi⟩ hv] at h
        cases h
        exact ⟨hv, hi, rfl⟩
      · rw [set, dif_pos hi, Nat.one_shiftLeft, if_neg hv] at h
        cases h
    · rw [set, dif_neg hi] at h
      cases h
  · rintro ⟨hv, hi, rfl⟩
    exact a.set_eq_ok ⟨i, hi⟩ hv

theorem get_set_self (h : a.set i v = .ok b) : b.get i = .ok v := by
  obtain ⟨hv, hi, rfl⟩ := set_eq_ok_iff.1 h
  rw [get_eq_ok (a.write ⟨i, hi⟩ v) hi, field_write_self _ ⟨i, hi⟩ hv]

theorem get_set_ne {e : Nat} (h : a.set i v = .ok b) (hne : e ≠ i) : b.get e = a.get e := by
  obtain ⟨hv, hi, rfl⟩ := set_eq_ok_iff.1 h
  by_cases he : e < a.length
  · rw [get_eq_ok _ he, get_eq_ok (a.write ⟨i, hi⟩ v) he, field_write_ne _ ⟨i, hi⟩ hne hv]
  · rw [get_eq_error _ he, get_eq_error (a.write ⟨i, hi⟩ v) he, length_write]

/-! ## packing a list -/

/-- Numbers that fit are all set, each behind the one before it. -/
theorem setAll_eq_ok {start : Nat} {l : List Nat} (hl : ∀ v ∈ l, v < 2 ^ a.bits)
    (hlen : start + l.length ≤ a.length) :
    ∃ b, a.setAll start l = (b, none) ∧ b.bits = a.bits ∧ b.length = a.length ∧
      (∀ e, e < start → b.get e = a.get e) ∧
      ∀ (j : Nat) (hj : j < l.length), b.get (start + j) = .ok l[j] := by
  induction l generalizing a start with
  | nil => exact ⟨a, rfl, rfl, rfl, fun _ _ => rfl, fun j hj => absurd hj (Nat.not_lt_zero j)⟩
  | cons v r ih =>
    have hi : start < a.length := by rw [List.length_cons] at hlen; omega
    have hs := a.set_eq_ok ⟨start, hi⟩ (hl v List.mem_cons_self)
    have hl' : ∀ u ∈ r, u < 2 ^ (a.write ⟨start, hi⟩ v).bits :=
      fun u hu => hl u (List.mem_cons_of_mem v hu)
    have hlen' : start + 1 + r.length ≤ (a.write ⟨start, hi⟩ v).length := by
      rw [List.length_cons] at hlen
      rw [length_write]
      omega
    obtain ⟨b, hb, hbits, hlength, hold, hnew⟩ := ih hl' hlen'
    refine ⟨b, ?_, hbits, hlength, fun e he => ?_, fun j hj => ?_⟩
    · rw [setAll, hs]
      exact hb
    · rw [hold e (by omega), get_set_ne hs (by show e ≠ start; omega)]
    · cases j with
      | zero => exact (hold start (by omega)).trans (get_set_self hs)
      | succ j =>
        rw [show start + (j + 1) = start + 1 + j by omega,
          hnew j (by rw [List.length_cons] at hj; omega), List.getElem_cons_succ]

/-- **Packing keeps every number.** -/
theorem ofList_eq_ok {bits : Nat} (h1 : 1 ≤ bits) (h2 : bits ≤ 32) {l : List Nat}
    (hl : ∀ v ∈ l, v < 2 ^ bits) :
    ∃ a, ofList bits l = .ok a ∧ a.bits = bits ∧ a.length = l.length ∧ a.toList = l := by
  let z : PackedArray :=
    ⟨bits, l.length, Array.replicate (wordsFor bits l.length) 0, h1, h2, by simp⟩
  have hz : zeros bits l.length = .ok z := by rw [zeros, dif_pos ⟨h1, h2⟩]
  have hlen : 0 + l.length ≤ z.length := Nat.le_of_eq (Nat.zero_add l.length)
  obtain ⟨b, hb, hbits, hlength, -, hget⟩ := setAll_eq_ok (a := z) hl hlen
  refine ⟨b, ?_, hbits, hlength, ?_⟩
  · simp only [ofList, hz, hb]
  · have hlen : b.toList.length = l.length := by
      rw [toList, List.length_map, List.length_finRange]
      exact hlength
    apply List.ext_getElem hlen
    intro j hj hj'
    have hjb : j < b.length := by rw [hlength]; exact hj'
    have h := hget j hj'
    rw [Nat.zero_add, b.get_eq_ok hjb, Except.ok.injEq] at h
    rw [← h]
    simp [toList, entry_eq_field]

end PackedArray

end Flattening
