import Flattening.Proofs.Rule.Independence

/-!
# How far the alpha flag reaches

Of all rules only that for doors asks whether a chunk came from the alpha format, and what it
then writes differs in hinge and power alone.  No rule looks at these two but the one for doors,
and that one only to write them again.  So two runs over chunks that differ in the flag keep
their states the same up to hinge and power of doors.

* `SameButHinge`          states that differ in no more than hinge and power;
* `Layout.Alike`          which they do only on cells of doors;
* `Rule.plan_alike`       a rule does alike in views that are alike;
* `Akin.step`, `Akin.runGroups`   and keeps them so, and so does a run.
-/

namespace Flattening

/-! ## states -/

/-- states that have the same name and the same properties, except that the values of hinge and
power may differ -/
structure SameButHinge (s t : BlockState) : Prop where
  name_eq : s.name = t.name
  property?_eq : ∀ key, key ≠ "hinge" → key ≠ "powered" → s.property? key = t.property? key
  isSome_eq : ∀ key, (s.property? key).isSome = (t.property? key).isSome

namespace SameButHinge

theorem refl (s : BlockState) : SameButHinge s s := ⟨rfl, fun _ _ _ => rfl, fun _ => rfl⟩

variable {s t : BlockState} (h : SameButHinge s t)
include h

theorem nameEndsWith_eq (e : String) : s.nameEndsWith e = t.nameEndsWith e := by
  rw [BlockState.nameEndsWith, h.name_eq, BlockState.nameEndsWith]

theorem propertyD_eq (key default : String) (hh : key ≠ "hinge") (hp : key ≠ "powered") :
    s.propertyD key default = t.propertyD key default := by
  rw [BlockState.propertyD, h.property?_eq key hh hp, BlockState.propertyD]

end SameButHinge

namespace Rule

theorem properties_doorHalf (name facing half hinge opened powered : String) :
    (doorHalf name facing half hinge opened powered).properties =
      [("facing", facing), ("half", half), ("hinge", hinge), ("open", opened),
        ("powered", powered)] := by
  have hkeys : ["facing", "half", "hinge", "open", "powered"].Pairwise (· < ·) := by decide
  exact Entries.ofList_of_ascending (List.pairwise_map.1 hkeys)

/-- Two halves that differ in hinge and power alone. -/
theorem sameButHinge_doorHalf (name facing half opened hinge hinge' powered powered' : String) :
    SameButHinge (doorHalf name facing half hinge opened powered)
      (doorHalf name facing half hinge' opened powered') := by
  refine ⟨rfl, fun key hh hp => ?_, fun key => ?_⟩
  · simp only [BlockState.property?, properties_doorHalf, Entries.get?_cons, if_neg hh, if_neg hp]
  · simp only [BlockState.property?, properties_doorHalf, Entries.get?_cons]
    split_ifs <;> rfl

end Rule

/-! ## edits -/

/-- edits that take the same and write related states to the same cells -/
structure Edit.Related (R : ColumnCell → BlockState → BlockState → Prop) (e e' : Edit) : Prop where
  consumes_eq : e.consumes = e'.consumes
  writes : List.Forall₂ (fun a b => a.1 = b.1 ∧ R a.1 a.2 b.2) e.writes e'.writes

theorem Edit.Related.refl {R : ColumnCell → BlockState → BlockState → Prop} (hR : ∀ j s, R j s s)
    (e : Edit) : e.Related R e :=
  ⟨rfl, List.forall₂_same.2 fun w _ => ⟨rfl, hR w.1 w.2⟩⟩

namespace Layout

def IsDoor (L : Layout) (i : ColumnCell) : Prop := ∃ b ∈ Rule.door.blocks, L.ids i = some b

/-- The states differ in no more than hinge and power, and only on a cell of a door. -/
def Alike (L : Layout) (i : ColumnCell) (s t : BlockState) : Prop :=
  SameButHinge s t ∧ (¬ L.IsDoor i → s = t)

theorem alike_refl (L : Layout) (i : ColumnCell) (s : BlockState) : L.Alike i s s :=
  ⟨.refl s, fun _ => rfl⟩

end Layout

/-- two views that show the layout, have the same block entities and are alike in each cell -/
structure Akin (L : Layout) (v w : View) : Prop where
  shows : L.Shows v
  block : ∀ i, L.Alike i (v.block i) (w.block i)
  record?_eq : ∀ i, v.record? i = w.record? i

namespace Rule

variable {L : Layout} {v w : View} {i : ColumnCell} {b : Nat} {r : Rule}

/-- All rules but the one for doors read their own cell and the names of its neighbours. -/
theorem plan_congr_of_names (hr : r ≠ .door) (hown : v.block i = w.block i)
    (hrecord : v.record? i = w.record? i) (hnames : ∀ j, (v.block j).name = (w.block j).name) :
    r.plan v i = r.plan w i := by
  cases r with
  | noteBlock | bed | flowerPot | skull | banner =>
    simp only [plan, fromRecord, hown, hrecord]
  | snowyGround => simp only [plan, planSnowyGround, hown, hnames]
  | pumpkin => simp only [plan, planPumpkin, hown, hnames]
  | doublePlant => simp only [plan, planDoublePlant, hown, hnames]
  | door => exact absurd rfl hr

/-- A door is joined in both views or in neither, and its halves are doors. -/
theorem planDoor_alike (h : Akin L v w) (hi : L.ids i = some b) (hb : b ∈ door.blocks) :
    (∃ u, planDoor v i = .error u ∧ planDoor w i = .error u) ∨
      ∃ e e', planDoor v i = .ok e ∧ planDoor w i = .ok e' ∧ e.Related L.Alike e' := by
  have hown := (h.block i).1
  unfold planDoor
  dsimp only
  rw [← hown.nameEndsWith_eq, ← hown.property?_eq "half" (by decide) (by decide)]
  split
  · cases hj : i.above? with
    | none => exact .inl ⟨_, rfl, rfl⟩
    | some j =>
      dsimp only
      rw [← (h.block j).1.name_eq, ← hown.name_eq,
        ← hown.propertyD_eq "facing" "east" (by decide) (by decide),
        ← hown.propertyD_eq "open" "false" (by decide) (by decide)]
      split
      · rename_i hn
        have hlower : L.IsDoor i := ⟨b, hb, hi⟩
        have hupper : L.IsDoor j := ⟨b, hb, Layout.ids_of_same_door h.shows hi hb hn⟩
        exact .inr ⟨_, _, rfl, rfl, rfl,
          .cons ⟨rfl, sameButHinge_doorHalf .., fun hno => absurd hlower hno⟩
            (.cons ⟨rfl, sameButHinge_doorHalf .., fun hno => absurd hupper hno⟩ .nil)⟩
      · exact .inl ⟨_, rfl, rfl⟩
  · exact .inr ⟨_, _, rfl, rfl, Edit.Related.refl L.alike_refl _⟩

/-- **A rule does alike in views that are alike.** -/
theorem plan_alike (h : Akin L v w) (hi : L.ids i = some b) (hr : ofBlock? b = some r) :
    (∃ u, r.plan v i = .error u ∧ r.plan w i = .error u) ∨
      ∃ e e', r.plan v i = .ok e ∧ r.plan w i = .ok e' ∧ e.Related L.Alike e' := by
  by_cases hd : r = .door
  · subst hd
    exact planDoor_alike h hi (mem_blocks_of_ofBlock? hr)
  · have hno : ¬ L.IsDoor i := by
      rintro ⟨b', hb', hi'⟩
      rw [hi, Option.some.injEq] at hi'
      subst hi'
      rw [ofBlock?_of_mem hb', Option.some.injEq] at hr
      exact hd hr.symm
    rw [plan_congr_of_names hd ((h.block i).2 hno) (h.record?_eq i) fun j => (h.block j).1.name_eq]
    cases hp : r.plan w i with
    | error u => exact .inl ⟨u, rfl, rfl⟩
    | ok e => exact .inr ⟨e, e, rfl, rfl, Edit.Related.refl L.alike_refl e⟩

end Rule

/-! ## runs -/

namespace Akin

variable {L : Layout} {v w : View} {i : ColumnCell} {b : Nat} {r : Rule}

theorem perform {e e' : Edit} (h : Akin L v w) (he : e.Related L.Alike e')
    (hshows : L.Shows (CellStore.perform v i e)) :
    Akin L (CellStore.perform v i e) (CellStore.perform w i e') where
  shows := hshows
  block := View.block_perform_related he.writes h.block i
  record?_eq := fun j => by
    rw [View.record?_perform, View.record?_perform, he.consumes_eq, h.record?_eq]

/-- A step keeps views alike. -/
theorem step (h : Akin L v w) (hi : L.ids i = some b) (hr : Rule.ofBlock? b = some r)
    (log log' : Array Event) :
    Akin L (r.stepReporting (v, log) i).1 (r.stepReporting (w, log') i).1 := by
  obtain ⟨u, hv, hw⟩ | ⟨e, e', hv, hw, he⟩ := Rule.plan_alike h hi hr
  · rw [Rule.stepReporting_of_error hv, Rule.stepReporting_of_error hw]
    exact h
  · have hshows := Layout.shows_perform h.shows hi hr hv
    rw [Rule.stepReporting_of_ok hv, Rule.stepReporting_of_ok hw]
    exact h.perform he hshows

/-- **A run keeps views alike**, whatever the order of its groups. -/
theorem runGroups (h : Akin L v w) {gs : List Chunk.Group}
    (hgs : ∀ g ∈ gs, ∀ i ∈ g.columnCells, L.ids i = some g.block) (log log' : Array Event) :
    Akin L (Chunk.runGroups gs v log).1 (Chunk.runGroups gs w log').1 :=
  runGroups_related (C := fun b i => L.ids i = some b)
    (R := fun (p q : View × Array Event) => Akin L p.1 q.1)
    (fun _ _ _ p q hr hi hpq => hpq.step hi hr p.2 q.2) hgs (p := (v, log)) (q := (w, log')) h

end Akin

end Flattening
