/-!
# Blanks

The characters that count as blank at the ends of a text: the 25 code points of the
White_Space property.

* `isBlank_of_isWhitespace`   the ASCII blanks are among them;
* `trim_eq_nil_of_blank`      a text of blanks trims to nothing.
-/

namespace Flattening.Text

def blanks : List Nat :=
  [0x9, 0xa, 0xb, 0xc, 0xd, 0x20, 0x85, 0xa0, 0x1680, 0x2000, 0x2001, 0x2002, 0x2003, 0x2004,
   0x2005, 0x2006, 0x2007, 0x2008, 0x2009, 0x200a, 0x2028, 0x2029, 0x202f, 0x205f, 0x3000]

def isBlank (c : Char) : Bool := blanks.contains c.toNat

theorem isBlank_of_isWhitespace (c : Char) (h : c.isWhitespace = true) : isBlank c = true := by
  simp only [Char.isWhitespace, Bool.or_eq_true, decide_eq_true_eq] at h
  rcases h with ((rfl | rfl) | rfl) | rfl <;> decide

/-- without the blanks at both ends -/
def trim (s : List Char) : List Char :=
  ((s.dropWhile isBlank).reverse.dropWhile isBlank).reverse

theorem dropWhile_eq_nil_of_blank {s : List Char} (h : ∀ c ∈ s, isBlank c = true) :
    s.dropWhile isBlank = [] := by
  induction s with
  | nil => rfl
  | cons c r ih =>
    rw [List.dropWhile_cons_of_pos (h c (by simp))]
    exact ih fun d hd => h d (by simp [hd])

theorem trim_eq_nil_of_blank {s : List Char} (h : ∀ c ∈ s, isBlank c = true) : trim s = [] := by
  simp [trim, dropWhile_eq_nil_of_blank h]

/-- ASCII letters in lower case; all other characters stay -/
def lower (s : List Char) : List Char := s.map Char.toLower

end Flattening.Text
