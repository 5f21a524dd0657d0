/-!
# Dyes

The sixteen dye colours in the order in which wool numbers them.

* `dyeName?_isSome_iff`   the numbers zero to fifteen have a colour and no others.
-/

namespace Flattening

def dyeNames : Vector String 16 :=
  #v["white", "orange", "magenta", "light_blue", "yellow", "lime", "pink", "gray",
    "light_gray", "cyan", "purple", "blue", "brown", "green", "red", "black"]

def dyeName? (n : Int) : Option String :=
  if 0 ≤ n then dyeNames[n.toNat]? else none

theorem dyeName?_isSome_iff (n : Int) : (dyeName? n).isSome ↔ 0 ≤ n ∧ n < 16 := by
  unfold dyeName?
  split
  · simp only [Vector.getElem?_eq_some_iff, Option.isSome_iff_exists]
    constructor
    · rintro ⟨_, h, _⟩; omega
    · intro h; exact ⟨_, by omega, rfl⟩
  · simp only [Option.isSome_none, Bool.false_eq_true, false_iff]; omega

end Flattening
