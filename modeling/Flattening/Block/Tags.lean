import Flattening.Block.State
import Flattening.Tag.Basic

/-!
# The tag of a block state

A palette entry is a compound with the name and, unless there are none, the properties.

* `ofTag?_toTag`   a state read from its own tag is the state.
-/

namespace Flattening.BlockState

def propertiesTag (s : BlockState) : Tag := .compound (s.properties.map fun p => (p.1, .text p.2))

def toTag (s : BlockState) : Tag :=
  if s.properties.isEmpty then .compound [("Name", .text s.name)]
  else .compound [("Name", .text s.name), ("Properties", s.propertiesTag)]

/-- every value must be a text -/
def textEntries? : List (String × Tag) → Option (List (String × String))
  | [] => some []
  | (k, t) :: r =>
    match t with
    | .text v => (textEntries? r).map ((k, v) :: ·)
    | _ => none

def ofTag? (t : Tag) : Option BlockState := do
  let name ← (← t.get? "Name").text?
  match t.get? "Properties" with
  | none => return ofPairs name []
  | some p => return ofPairs name (← textEntries? (← p.entries?))

theorem textEntries?_map (l : List (String × String)) :
    textEntries? (l.map fun p => (p.1, .text p.2)) = some l := by
  induction l with
  | nil => rfl
  | cons p r ih => simp [textEntries?, ih]

theorem ofPairs_properties (s : BlockState) : ofPairs s.name s.properties = s := by
  cases s with
  | mk n p h => simp [ofPairs, Entries.ofList_of_ascending h]

theorem ofTag?_toTag (s : BlockState) : ofTag? s.toTag = some s := by
  have h := ofPairs_properties s
  by_cases he : s.properties.isEmpty
  · have hp : s.properties = [] := List.isEmpty_iff.1 he
    rw [hp] at h
    simp [ofTag?, toTag, he, Tag.get?_compound, Entries.get?_cons, Entries.get?_nil, Tag.text?, h]
  · simp [ofTag?, toTag, he, Tag.get?_compound, Entries.get?_cons, Tag.text?, propertiesTag,
      Tag.entries?, textEntries?_map, h]

end Flattening.BlockState
