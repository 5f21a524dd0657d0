import Flattening.Tag.Basic

/-!
# The size of a tag: nesting depth and number of tags

A tag without parts has depth one; a list or a compound is one deeper than its deepest part.
Both measures walk the parts with the answer so far, so a long list costs no stack.

* `depth_list_nil`, `depth_compound_nil`  an empty list or compound counts as one level;
* `countParts_eq`, `countEntries_eq`      the answer so far is only ever added to.
-/

namespace Flattening.Tag

mutual

/-- number of levels, the tag's own included -/
def depth : Tag → Nat
  | .list l => 1 + deepest l 0
  | .compound m => 1 + deepestEntry m 0
  | _ => 1

/-- the greater of `so` and the depths of the tags -/
def deepest : List Tag → Nat → Nat
  | [], so => so
  | t :: r, so => deepest r (max so (depth t))

def deepestEntry : List (String × Tag) → Nat → Nat
  | [], so => so
  | (_, t) :: r, so => deepestEntry r (max so (depth t))

end

theorem depth_list_nil : depth (.list []) = 1 := by simp [depth, deepest]
theorem depth_compound_nil : depth (.compound []) = 1 := by simp [depth, deepestEntry]

mutual

/-- number of tags, this one included -/
def count : Tag → Nat
  | .list l => countParts l 1
  | .compound m => countEntries m 1
  | _ => 1

def countParts : List Tag → Nat → Nat
  | [], so => so
  | t :: r, so => countParts r (so + count t)

def countEntries : List (String × Tag) → Nat → Nat
  | [], so => so
  | (_, t) :: r, so => countEntries r (so + count t)

end

theorem countParts_eq (l : List Tag) (n : Nat) : countParts l n = n + countParts l 0 := by
  induction l generalizing n with
  | nil => simp [countParts]
  | cons t r ih => rw [countParts, countParts, ih, ih (0 + count t)]; omega

theorem countEntries_eq (m : List (String × Tag)) (n : Nat) :
    countEntries m n = n + countEntries m 0 := by
  induction m generalizing n with
  | nil => simp [countEntries]
  | cons p r ih =>
    obtain ⟨k, t⟩ := p
    rw [countEntries, countEntries, ih, ih (0 + count t)]; omega

end Flattening.Tag
