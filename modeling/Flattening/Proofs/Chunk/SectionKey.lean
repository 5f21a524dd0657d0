import Flattening.Chunk.UpgradeData
import Mathlib.Data.List.Induction

/-!
# The keys that name a section

A section is named by its number in decimal digits.  A plus sign is taken before them, and so are
zeros, so each section has many keys: `7`, `07`, `+7`, `+007` and so on, and no others.

* `exists_zeros`             digits are zeros and then the digits of what they are worth;
* `byteOfText?_eq_some_iff`  a text names a section when it is one of the spellings of its number;
* `spells_toString`          the number itself is one of them.
-/

namespace Flattening.UpgradeData

/-! ## what digits are worth -/

theorem digitsValue_append_singleton (cs : List Char) (c : Char) :
    digitsValue (cs ++ [c]) = 10 * digitsValue cs + (c.toNat - 48) := by
  rw [digitsValue, List.foldl_append]
  rfl

theorem digitsValue_zeros_append (n : Nat) (cs : List Char) :
    digitsValue (List.replicate n '0' ++ cs) = digitsValue cs := by
  induction n with
  | zero => rfl
  | succ n ih => exact ih

theorem digitsValue_toDigits (n : Nat) : digitsValue (Nat.toDigits 10 n) = n :=
  Nat.ofDigitChars_ten_toDigits

theorem range_of_isDigit {c : Char} (h : c.isDigit) : 48 ≤ c.toNat ∧ c.toNat ≤ 57 :=
  Char.isDigit_iff_toNat.1 h

theorem toDigits_of_isDigit {c : Char} (h : c.isDigit) :
    Nat.toDigits 10 (c.toNat - 48) = [c] := by
  have hrange := range_of_isDigit h
  have hlt : c.toNat - 48 < 10 := by omega
  rw [Nat.toDigits_of_lt_base hlt]
  have hchar : (c.toNat - 48).digitChar = c := by
    rw [← Char.toNat_inj, Nat.toNat_digitChar_of_lt_ten hlt]
    omega
  rw [hchar]

/-- Digits are zeros and then the digits of what they are worth. -/
theorem exists_zeros {cs : List Char} (hne : cs ≠ []) (hd : ∀ c ∈ cs, c.isDigit) :
    ∃ n, cs = List.replicate n '0' ++ Nat.toDigits 10 (digitsValue cs) := by
  -- from the end, since a digit that is appended multiplies what is in front of it by ten
  induction cs using List.reverseRecOn with
  | nil => exact absurd rfl hne
  | append_singleton cs c ih =>
    have hc := hd c (by simp)
    rw [digitsValue_append_singleton]
    rcases eq_or_ne cs [] with rfl | hcs
    · refine ⟨0, ?_⟩
      rw [digitsValue, List.foldl_nil, Nat.mul_zero, Nat.zero_add, toDigits_of_isDigit hc]
      rfl
    · obtain ⟨n, hn⟩ := ih hcs fun c' hc' => hd c' (List.mem_append_left _ hc')
      have hrange := range_of_isDigit hc
      have hlt : c.toNat - 48 < 10 := by omega
      rcases Nat.eq_zero_or_pos (digitsValue cs) with hzero | hpos
      · -- all of them were zeros so far
        rw [hzero] at hn
        refine ⟨n + 1, ?_⟩
        rw [hzero, Nat.mul_zero, Nat.zero_add, toDigits_of_isDigit hc, List.replicate_succ']
        exact congrArg (· ++ [c]) hn
      · refine ⟨n, ?_⟩
        rw [← Nat.toDigits_append_toDigits (by decide) hpos hlt, toDigits_of_isDigit hc,
          ← List.append_assoc, ← hn]

/-! ## spellings -/

/-- the number of a section in decimal digits, after some zeros -/
def spelling (zeros : Nat) (y : UInt8) : List Char :=
  List.replicate zeros '0' ++ (toString y.toNat).toList

/-- zeros or none in front of the number, and a plus sign or none in front of these -/
def Spells (y : UInt8) (s : String) : Prop :=
  ∃ zeros, s.toList = spelling zeros y ∨ s.toList = '+' :: spelling zeros y

theorem spelling_eq_toDigits (zeros : Nat) (y : UInt8) :
    spelling zeros y = List.replicate zeros '0' ++ Nat.toDigits 10 y.toNat := by
  rw [spelling, Nat.toString_eq_repr, Nat.toList_repr]

theorem spelling_ne_nil (zeros : Nat) (y : UInt8) : spelling zeros y ≠ [] := by
  rw [spelling_eq_toDigits]
  exact List.append_ne_nil_of_right_ne_nil _ Nat.toDigits_ne_nil

theorem isDigit_of_mem_spelling {zeros : Nat} {y : UInt8} {c : Char} (h : c ∈ spelling zeros y) :
    c.isDigit := by
  rw [spelling_eq_toDigits] at h
  rcases List.mem_append.1 h with h | h
  · rw [List.eq_of_mem_replicate h]
    rfl
  · exact Nat.isDigit_of_mem_toDigits (by decide) (by decide) h

theorem digitsValue_spelling (zeros : Nat) (y : UInt8) :
    digitsValue (spelling zeros y) = y.toNat := by
  rw [spelling_eq_toDigits, digitsValue_zeros_append, digitsValue_toDigits]

/-- what stands after the plus sign, if there is one -/
def unsigned : List Char → List Char
  | '+' :: r => r
  | cs => cs

theorem unsigned_of_isDigit {cs : List Char} (h : ∀ c ∈ cs, c.isDigit) : unsigned cs = cs := by
  unfold unsigned
  split
  · exact absurd (h '+' List.mem_cons_self) (by decide)
  · rfl

theorem eq_unsigned_or (cs : List Char) : cs = unsigned cs ∨ cs = '+' :: unsigned cs := by
  unfold unsigned
  split
  · exact .inr rfl
  · exact .inl rfl

theorem byteOfText?_eq_some_iff_digits {s : String} {y : UInt8} :
    byteOfText? s = some y ↔ unsigned s.toList ≠ [] ∧ (∀ c ∈ unsigned s.toList, c.isDigit) ∧
      digitsValue (unsigned s.toList) = y.toNat := by
  have hdef : byteOfText? s =
      if !(unsigned s.toList).isEmpty && (unsigned s.toList).all Char.isDigit &&
        digitsValue (unsigned s.toList) < 256 then
        some (UInt8.ofNat (digitsValue (unsigned s.toList))) else none := rfl
  rw [hdef, Option.ite_none_right_eq_some]
  simp only [Bool.and_eq_true, Bool.not_eq_true', List.isEmpty_eq_false_iff, List.all_eq_true,
    decide_eq_true_eq, Option.some.injEq]
  constructor
  · rintro ⟨⟨⟨hne, hd⟩, hlt⟩, rfl⟩
    exact ⟨hne, hd, (UInt8.toNat_ofNat_of_lt' hlt).symm⟩
  · rintro ⟨hne, hd, hy⟩
    rw [hy, UInt8.ofNat_toNat]
    exact ⟨⟨⟨hne, hd⟩, y.toNat_lt⟩, rfl⟩

/-- A text names a section when it is one of the spellings of its number. -/
theorem byteOfText?_eq_some_iff {s : String} {y : UInt8} :
    byteOfText? s = some y ↔ Spells y s := by
  rw [byteOfText?_eq_some_iff_digits]
  constructor
  · rintro ⟨hne, hd, hval⟩
    obtain ⟨zeros, hzeros⟩ := exists_zeros hne hd
    rw [hval, ← spelling_eq_toDigits] at hzeros
    refine ⟨zeros, ?_⟩
    rw [← hzeros]
    exact eq_unsigned_or s.toList
  · rintro ⟨zeros, hs⟩
    have hd : ∀ c ∈ spelling zeros y, c.isDigit := fun c hc => isDigit_of_mem_spelling hc
    have hunsigned : unsigned s.toList = spelling zeros y := by
      rcases hs with hs | hs
      · rw [hs, unsigned_of_isDigit hd]
      · rw [hs]
        rfl
    rw [hunsigned]
    exact ⟨spelling_ne_nil zeros y, hd, digitsValue_spelling zeros y⟩

theorem spells_toString (y : UInt8) : Spells y (toString y.toNat) := ⟨0, .inl rfl⟩

end Flattening.UpgradeData
