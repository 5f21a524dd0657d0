import Flattening.Report.Fault

/-!
# Packed arrays

Numbers of a fixed width of one to 32 bits, packed into words of 64 bits with the lowest bits
first.  A number may lie across two words.

* `wordIndex_lt`, `wordIndex_succ_lt`   every access stays inside the words;
* `get_eq_error_iff`, `set_eq_error_iff`   the only ways to fail.
-/

namespace Flattening

/-! ## widths -/

/-- the least number of bits that tells `n` things apart -/
def ceilLog2 (n : Nat) : Nat := if n ≤ 1 then 0 else Nat.log2 (n - 1) + 1

/-- A palette's indices never take less than four bits. -/
def bitsForPalette (size : Nat) : Nat := max 4 (ceilLog2 size)

theorem four_le_bitsForPalette (n : Nat) : 4 ≤ bitsForPalette n := Nat.le_max_left _ _

def wordsFor (bits length : Nat) : Nat := (length * bits + 63) / 64

/-! ## arrays -/

structure PackedArray where
  bits : Nat
  length : Nat
  words : Array UInt64
  one_le_bits : 1 ≤ bits
  bits_le : bits ≤ 32
  size_words : words.size = wordsFor bits length
  deriving DecidableEq

namespace PackedArray

def zeros (bits length : Nat) : Except Fault PackedArray :=
  if h : 1 ≤ bits ∧ bits ≤ 32 then
    .ok ⟨bits, length, Array.replicate (wordsFor bits length) 0, h.1, h.2, by simp⟩
  else .error (.badWidth bits)

/-- The words must be as many as the numbers take. -/
def ofWords? (bits length : Nat) (words : Array UInt64) : Option PackedArray :=
  if h : (1 ≤ bits ∧ bits ≤ 32) ∧ words.size = wordsFor bits length then
    some ⟨bits, length, words, h.1.1, h.1.2, h.2⟩
  else none

variable (a : PackedArray)

/-- the word in which a number starts -/
def wordIndex (i : Nat) : Nat := i * a.bits / 64

/-- the bit of that word at which it starts -/
def bitOffset (i : Nat) : Nat := i * a.bits % 64

def mask : UInt64 := (1 <<< UInt64.ofNat a.bits) - 1

theorem end_le {a : PackedArray} {i : Nat} (h : i < a.length) :
    i * a.bits + a.bits ≤ a.length * a.bits := by
  rw [← Nat.succ_mul]
  exact Nat.mul_le_mul_right _ h

theorem wordIndex_lt {a : PackedArray} {i : Nat} (h : i < a.length) :
    a.wordIndex i < a.words.size := by
  have h1 := end_le h
  have h2 := a.one_le_bits
  rw [a.size_words]
  unfold wordIndex wordsFor
  omega

theorem wordIndex_succ_lt {a : PackedArray} {i : Nat} (h : i < a.length)
    (hs : 64 < a.bitOffset i + a.bits) : a.wordIndex i + 1 < a.words.size := by
  have h1 := end_le h
  rw [a.size_words]
  unfold wordIndex wordsFor
  unfold bitOffset at hs
  omega

/-- the number at an index -/
def entry (i : Fin a.length) : Nat :=
  have h := wordIndex_lt i.isLt
  let offset := a.bitOffset i.val
  let low := a.words[a.wordIndex i.val] >>> UInt64.ofNat offset
  let value :=
    if hs : 64 < offset + a.bits then
      have h' := wordIndex_succ_lt i.isLt hs
      low ||| a.words[a.wordIndex i.val + 1] <<< UInt64.ofNat (64 - offset)
    else low
  (value &&& a.mask).toNat

/-- the words with one number replaced -/
def wordsWith (i : Fin a.length) (v : Nat) : Array UInt64 :=
  have h := wordIndex_lt i.isLt
  let offset := a.bitOffset i.val
  let value := UInt64.ofNat v
  let k := a.wordIndex i.val
  let low := (a.words[k] &&& ~~~(a.mask <<< UInt64.ofNat offset)) |||
    value <<< UInt64.ofNat offset
  let words := a.words.set k low h
  if hs : 64 < offset + a.bits then
    have h' : k + 1 < words.size := by simpa [words] using wordIndex_succ_lt i.isLt hs
    let spilled := UInt64.ofNat (64 - offset)
    words.set (k + 1) ((words[k + 1] &&& ~~~(a.mask >>> spilled)) ||| value >>> spilled) h'
  else words

theorem size_wordsWith (i : Fin a.length) (v : Nat) :
    (a.wordsWith i v).size = a.words.size := by
  unfold wordsWith
  simp only
  split <;> simp

def get (i : Nat) : Except Fault Nat :=
  if h : i < a.length then .ok (a.entry ⟨i, h⟩) else .error (.indexOutOfRange i a.length)

/-- The index is judged before the value. -/
def set (i v : Nat) : Except Fault PackedArray :=
  if h : i < a.length then
    if v < 1 <<< a.bits then
      .ok ⟨a.bits, a.length, a.wordsWith ⟨i, h⟩ v, a.one_le_bits, a.bits_le,
        (a.size_wordsWith ⟨i, h⟩ v).trans a.size_words⟩
    else .error (.valueTooWide v a.bits)
  else .error (.indexOutOfRange i a.length)

theorem get_eq_error_iff (i : Nat) (e : Fault) :
    a.get i = .error e ↔ a.length ≤ i ∧ e = .indexOutOfRange i a.length := by
  unfold get
  split <;> grind

theorem set_eq_error_iff (i v : Nat) (e : Fault) :
    a.set i v = .error e ↔
      (a.length ≤ i ∧ e = .indexOutOfRange i a.length) ∨
        (i < a.length ∧ 1 <<< a.bits ≤ v ∧ e = .valueTooWide v a.bits) := by
  unfold set
  split
  · split <;> grind
  · grind

/-- all numbers in order -/
def toList : List Nat := (List.finRange a.length).map a.entry

/-- Numbers set one after the other from index `start` on, up to the first that cannot be. -/
def setAll (a : PackedArray) (start : Nat) : List Nat → PackedArray × Option Fault
  | [] => (a, none)
  | v :: r =>
    match a.set start v with
    | .ok a => setAll a (start + 1) r
    | .error e => (a, some e)

/-- the numbers packed at a width -/
def ofList (bits : Nat) (l : List Nat) : Except Fault PackedArray :=
  match zeros bits l.length with
  | .error e => .error e
  | .ok a =>
    match a.setAll 0 l with
    | (a, none) => .ok a
    | (_, some e) => .error e

end PackedArray

end Flattening
