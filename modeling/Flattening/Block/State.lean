import Flattening.Entries

/-!
# Block states

A flattened block is a name with properties, and the properties are in key order.  So two
states are equal when their names and all their properties are.

* `property?_with_self`, `property?_with_ne`     what `withProperty` changes;
* `property?_renamed`, `name_withProperty`       what stays.
-/

namespace Flattening

structure BlockState where
  name : String
  properties : Entries String String
  ascending : Entries.Ascending properties
  deriving DecidableEq

namespace BlockState

/-- of two pairs with one key the later counts -/
def ofPairs (name : String) (pairs : List (String × String)) : BlockState :=
  ⟨name, Entries.ofList pairs, Entries.ascending_ofList pairs⟩

def plain (name : String) : BlockState := ⟨name, [], Entries.ascending_nil⟩

def airName : String := "minecraft:air"

def air : BlockState := plain airName

instance : Inhabited BlockState := ⟨air⟩

/-- Properties do not matter for being air. -/
def isAir (s : BlockState) : Bool := s.name == airName

def property? (s : BlockState) (key : String) : Option String :=
  Entries.get? key s.properties

/-- the same state with one property set -/
def withProperty (s : BlockState) (key value : String) : BlockState :=
  ⟨s.name, Entries.insert key value s.properties, Entries.ascending_insert key value s.ascending⟩

/-- the same properties under another name -/
def renamed (s : BlockState) (name : String) : BlockState :=
  ⟨name, s.properties, s.ascending⟩

theorem name_withProperty (s : BlockState) (k v : String) : (s.withProperty k v).name = s.name :=
  rfl

theorem property?_with_self (s : BlockState) (k v : String) :
    (s.withProperty k v).property? k = some v := Entries.get?_insert_self k v s.properties

theorem property?_with_ne {k k' : String} (h : k' ≠ k) (s : BlockState) (v : String) :
    (s.withProperty k v).property? k' = s.property? k' :=
  Entries.get?_insert_ne h v s.properties

theorem withProperty_again (s : BlockState) (k v : String) :
    (s.withProperty k v).withProperty k v = s.withProperty k v := by
  simp only [withProperty, Entries.insert_insert_self]

theorem name_renamed (s : BlockState) (n : String) : (s.renamed n).name = n := rfl

theorem property?_renamed (s : BlockState) (n k : String) :
    (s.renamed n).property? k = s.property? k := rfl

theorem isAir_air : air.isAir = true := by decide

/-! ## order -/

/-- pair by pair, key before value; what ends first comes first -/
def comparePairs : List (String × String) → List (String × String) → Ordering
  | [], [] => .eq
  | [], _ :: _ => .lt
  | _ :: _, [] => .gt
  | (k, v) :: r, (k', v') :: r' =>
    (compare k k').then ((compare v v').then (comparePairs r r'))

/-- by name, then by properties -/
instance : Ord BlockState where
  compare s t := (compare s.name t.name).then (comparePairs s.properties t.properties)

end BlockState

end Flattening
