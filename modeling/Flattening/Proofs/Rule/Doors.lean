import Flattening.Proofs.Rule.Alpha

/-!
# How the halves of a door are joined

The cells of one door have their turns from below.  A lower half is joined with any cell of its door
right above it, and that cell is an upper half from then on and passes its own turn.  So of lower
halves that stand on each other the first is joined with the second, the third with the fourth, and
a cell is made an upper half when the number of lower halves right below it is odd.

* `streakBelow`              how many cells of a kind stand on each other right below a cell;
* `Joins.not_joins`          no cell is an upper half of one pair and the lower half of another;
* `exists_joins_iff`         a cell is above another of its pair when the streak below is odd;
* `AfterTurns.turn`, `AfterTurns.apply`   a turn joins the pair of its cell and changes nothing else;
* `AfterTurns.block_cases`   what each cell is in the end;
* `AfterTurns.half_eq`       and which half.
-/

namespace Flattening

/-! ## streaks -/

/-- number of cells with `p` that stand on each other right below a cell -/
def ColumnCell.streakBelow (p : ColumnCell → Bool) (i : ColumnCell) : Nat :=
  match h : i.below? with
  | none => 0
  | some k => if p k then streakBelow p k + 1 else 0
termination_by i.val
decreasing_by
  have hk := ColumnCell.next?_down.1 h
  omega

namespace ColumnCell

variable {p : ColumnCell → Bool} {i j k : ColumnCell}

theorem streakBelow_of_below (h : i.below? = some k) :
    streakBelow p i = if p k then streakBelow p k + 1 else 0 := by
  rw [streakBelow]
  split
  · rename_i hnone
    rw [h] at hnone
    cases hnone
  · rename_i k' hk'
    rw [h, Option.some.injEq] at hk'
    rw [hk']

theorem streakBelow_eq_zero (h : ∀ k, i.below? = some k → p k = false) : streakBelow p i = 0 := by
  rw [streakBelow]
  split
  · rfl
  · rename_i k hk
    rw [h k hk]
    rfl

theorem above?_inj (hi : i.above? = some j) (hk : k.above? = some j) : i = k := by
  rw [next?_up] at hi hk
  exact Fin.ext (by omega)

theorem lt_of_above? (h : i.above? = some j) : i < j := by
  rw [next?_up] at h
  show i.val < j.val
  omega

end ColumnCell

open ColumnCell

/-! ## pairs -/

namespace View

/-- The cell is a lower half of the door. -/
def isLowerHalf (v : View) (n : String) (i : ColumnCell) : Bool :=
  (v.block i).name == n && (v.block i).property? "half" == some "lower"

theorem isLowerHalf_iff {v : View} {n : String} {i : ColumnCell} :
    v.isLowerHalf n i = true ↔
      (v.block i).name = n ∧ (v.block i).property? "half" = some "lower" := by
  rw [isLowerHalf, Bool.and_eq_true, beq_iff_eq, beq_iff_eq]

/-- a half of the door that the cells `i` and `j` are joined to: the lower cell knows facing and
whether the door is open, the upper one hinge and power -/
def joinedHalf (v : View) (i j : ColumnCell) (half : String) : BlockState :=
  Rule.doorHalf (v.block i).name ((v.block i).propertyD "facing" "east") half
    (if v.fromAlpha then "left" else (v.block j).propertyD "hinge" "left")
    ((v.block i).propertyD "open" "false")
    (if v.fromAlpha then "false" else (v.block j).propertyD "powered" "false")

theorem joinedHalf_congr {v w : View} {i j : ColumnCell} (hi : w.block i = v.block i)
    (hj : w.block j = v.block j) (ha : w.fromAlpha = v.fromAlpha) (half : String) :
    w.joinedHalf i j half = v.joinedHalf i j half := by
  rw [joinedHalf, joinedHalf, hi, hj, ha]

/-- What two states written to different cells leave. -/
theorem block_perform_pair {i j : ColumnCell} (hij : i ≠ j) (w : View) (a b : BlockState) :
    (CellStore.perform w i ⟨false, [(i, a), (j, b)]⟩).block i = a ∧
      (CellStore.perform w i ⟨false, [(i, a), (j, b)]⟩).block j = b ∧
      ∀ k, k ≠ i → k ≠ j →
        (CellStore.perform w i ⟨false, [(i, a), (j, b)]⟩).block k = w.block k :=
  ⟨(block_write_ne (w := (j, b)) hij _).trans (block_write_self w (i, a)),
    block_write_self _ (j, b), fun _ hki hkj =>
      (block_write_ne (w := (j, b)) hkj _).trans (block_write_ne (w := (i, a)) hki w)⟩

theorem property?_half_joinedHalf (v : View) (i j : ColumnCell) (half : String) :
    (v.joinedHalf i j half).property? "half" = some half := by
  rw [BlockState.property?, joinedHalf, Rule.properties_doorHalf]
  rfl

end View

/-- The cells `i` and `j` of the door `n` are joined: `j` is right above the lower half `i`, and an
even number of lower halves is right below. -/
structure Joins (v : View) (n : String) (i j : ColumnCell) : Prop where
  above : i.above? = some j
  lower : v.isLowerHalf n i = true
  same : (v.block j).name = n
  even : streakBelow (v.isLowerHalf n) i % 2 = 0

section

variable {v w : View} {n : String} {i j k : ColumnCell}

theorem Joins.streakBelow_eq (h : Joins v n i j) :
    streakBelow (v.isLowerHalf n) j = streakBelow (v.isLowerHalf n) i + 1 := by
  rw [streakBelow_of_below (above?_eq_some_iff.1 h.above), if_pos h.lower]

/-- No cell is the upper one of a pair and the lower one of another. -/
theorem Joins.not_joins (h : Joins v n i j) (k : ColumnCell) : ¬Joins v n j k := by
  intro hj
  have hodd := h.streakBelow_eq
  have heven := hj.even
  have hi := h.even
  omega

/-- A cell of the door is the upper one of a pair when the streak below it is odd. -/
theorem exists_joins_iff (hj : (v.block j).name = n) :
    (∃ i, Joins v n i j) ↔ streakBelow (v.isLowerHalf n) j % 2 = 1 := by
  constructor
  · rintro ⟨i, h⟩
    have hodd := h.streakBelow_eq
    have hi := h.even
    omega
  · intro hodd
    cases hb : j.below? with
    | none =>
      rw [streakBelow_eq_zero fun k hk => by rw [hb] at hk; cases hk] at hodd
      cases hodd
    | some i =>
      rw [streakBelow_of_below hb] at hodd
      split at hodd
      · rename_i hi
        exact ⟨i, above?_eq_some_iff.2 hb, hi, hj, by omega⟩
      · cases hodd

/-! ## one turn -/

namespace Rule

/-- A cell that is no lower half of a door, or has no cell of its door above it, is passed. -/
theorem door_turn_of_pass
    (h : (w.block i).nameEndsWith "_door" = true → (w.block i).property? "half" = some "lower" →
      ∀ j, i.above? = some j → (w.block j).name ≠ (w.block i).name) (log : Array Event) :
    (door.stepReporting (w, log) i).1 = w := by
  obtain ⟨e, he, hs⟩ | ⟨u, -, hs⟩ := door.stepReporting_cases (w, log) i
  · have he' : planDoor w i = .ok e := he
    obtain rfl | ⟨j, hj, hd, hl, hn, -⟩ := cases_planDoor he'
    · rw [hs]
      rfl
    · exact absurd hn (h hd hl j hj)
  · rw [hs]

theorem door_turn_of_same (hd : (w.block i).nameEndsWith "_door" = true)
    (hl : (w.block i).property? "half" = some "lower") (hj : i.above? = some j)
    (hn : (w.block j).name = (w.block i).name) (log : Array Event) :
    (door.stepReporting (w, log) i).1 =
      CellStore.perform w i
        ⟨false, [(i, w.joinedHalf i j "lower"), (j, w.joinedHalf i j "upper")]⟩ := by
  have hplan : door.plan (CellStore.view (w, log).1) i =
      .ok ⟨false, [(i, w.joinedHalf i j "lower"), (j, w.joinedHalf i j "upper")]⟩ :=
    planDoor_of_same hj hd hl hn
  rw [stepReporting_of_ok hplan]

end Rule

/-- The view after the cells in `done` have had their turns: those pairs are joined of which the
lower cell is among them, and nothing else has changed. -/
structure AfterTurns (v : View) (n : String) (done : List ColumnCell) (w : View) : Prop where
  fromAlpha : w.fromAlpha = v.fromAlpha
  lower : ∀ i ∈ done, ∀ j, Joins v n i j → w.block i = v.joinedHalf i j "lower"
  upper : ∀ i ∈ done, ∀ j, Joins v n i j → w.block j = v.joinedHalf i j "upper"
  other : ∀ k, (∀ i ∈ done, ∀ j, Joins v n i j → k ≠ i ∧ k ≠ j) → w.block k = v.block k

namespace AfterTurns

theorem nil (v : View) (n : String) : AfterTurns v n [] v where
  fromAlpha := rfl
  lower _ hi := absurd hi List.not_mem_nil
  upper _ hi := absurd hi List.not_mem_nil
  other _ _ := rfl

variable {done : List ColumnCell}

/-- A turn that joins nothing leaves things as they are. -/
theorem pass (h : AfterTurns v n done w) (hno : ∀ j, ¬Joins v n i j) :
    AfterTurns v n (done ++ [i]) w where
  fromAlpha := h.fromAlpha
  lower k hk j hj := by
    rcases List.mem_append.1 hk with hk | hk
    · exact h.lower k hk j hj
    · rw [List.mem_singleton.1 hk] at hj
      exact absurd hj (hno j)
  upper k hk j hj := by
    rcases List.mem_append.1 hk with hk | hk
    · exact h.upper k hk j hj
    · rw [List.mem_singleton.1 hk] at hj
      exact absurd hj (hno j)
  other k hk := h.other k fun i' hi' => hk i' (List.mem_append_left _ hi')

/-- A turn that joins a pair writes its two halves. -/
theorem join (h : AfterTurns v n done w) (hj : Joins v n i j) (hlt : ∀ k ∈ done, k < i) :
    AfterTurns v n (done ++ [i]) (CellStore.perform w i
      ⟨false, [(i, v.joinedHalf i j "lower"), (j, v.joinedHalf i j "upper")]⟩) := by
  have hij := lt_of_above? hj.above
  -- an earlier pair lies below this one: its upper cell is neither of the two
  have hne : ∀ k ∈ done, ∀ m, Joins v n k m → m ≠ i ∧ m ≠ j := by
    intro k hk m hm
    refine ⟨?_, ?_⟩
    · rintro rfl
      exact hm.not_joins j hj
    · rintro rfl
      exact absurd (above?_inj hm.above hj.above) (Fin.ne_of_lt (hlt k hk))
  obtain ⟨hlower, hupper, hother⟩ := View.block_perform_pair (Fin.ne_of_lt hij) w
    (v.joinedHalf i j "lower") (v.joinedHalf i j "upper")
  refine ⟨(View.fromAlpha_perform w i _).trans h.fromAlpha, fun k hk m hm => ?_,
    fun k hk m hm => ?_, fun k hk => ?_⟩
  · rcases List.mem_append.1 hk with hk | hk
    · have hki := hlt k hk
      rw [hother k (Fin.ne_of_lt hki) (Fin.ne_of_lt (Fin.lt_trans hki hij))]
      exact h.lower k hk m hm
    · obtain rfl := List.mem_singleton.1 hk
      obtain rfl := Option.some.inj (hj.above.symm.trans hm.above)
      exact hlower
  · rcases List.mem_append.1 hk with hk | hk
    · obtain ⟨hmi, hmj⟩ := hne k hk m hm
      rw [hother m hmi hmj]
      exact h.upper k hk m hm
    · obtain rfl := List.mem_singleton.1 hk
      obtain rfl := Option.some.inj (hj.above.symm.trans hm.above)
      exact hupper
  · obtain ⟨hki, hkj⟩ := hk i (List.mem_append_right _ (List.mem_singleton_self i)) j hj
    rw [hother k hki hkj]
    exact h.other k fun i' hi' => hk i' (List.mem_append_left _ hi')

/-- A cell that no pair has reached is as it was. -/
theorem block_eq (h : AfterTurns v n done w) (hlt : ∀ k ∈ done, k < i) (hij : i ≤ j)
    (hno : ¬∃ k ∈ done, Joins v n k j) : w.block j = v.block j := by
  refine h.other j fun k hk m hm => ⟨?_, ?_⟩
  · exact (Fin.ne_of_lt (Fin.lt_of_lt_of_le (hlt k hk) hij)).symm
  · rintro rfl
    exact hno ⟨k, hk, hm⟩

/-- **A turn joins the pair of its cell, if there is one**, and changes nothing else, when all lower
cells of the door have had theirs. -/
theorem turn (h : AfterTurns v n done w) (hn : (v.block i).name = n)
    (hd : (v.block i).nameEndsWith "_door" = true) (hlt : ∀ k ∈ done, k < i)
    (hbelow : ∀ k, k < i → (v.block k).name = n → k ∈ done) (log : Array Event) :
    AfterTurns v n (done ++ [i]) (Rule.door.stepReporting (w, log) i).1 := by
  by_cases hupper : ∃ k, Joins v n k i
  · -- the cell has been made an upper half
    obtain ⟨k, hk⟩ := hupper
    have hkd := hbelow k (lt_of_above? hk.above) (View.isLowerHalf_iff.1 hk.lower).1
    have hhalf : (w.block i).property? "half" = some "upper" := by
      rw [h.upper k hkd i hk, View.property?_half_joinedHalf]
    rw [Rule.door_turn_of_pass fun _ hl => absurd (hhalf.symm.trans hl) (by decide)]
    exact h.pass hk.not_joins
  · have hown : w.block i = v.block i :=
      h.block_eq hlt (Fin.le_refl i) fun ⟨k, _, hk⟩ => hupper ⟨k, hk⟩
    have habove : ∀ j, i.above? = some j → w.block j = v.block j := by
      intro j hj
      refine h.block_eq hlt (Fin.le_of_lt (lt_of_above? hj)) ?_
      rintro ⟨k, hk, hkj⟩
      exact absurd (above?_inj hkj.above hj) (Fin.ne_of_lt (hlt k hk))
    by_cases hjoins : ∃ j, Joins v n i j
    · obtain ⟨j, hj⟩ := hjoins
      have hblock := habove j hj.above
      have hhalves : ∀ half, w.joinedHalf i j half = v.joinedHalf i j half :=
        View.joinedHalf_congr hown hblock h.fromAlpha
      have hl : (w.block i).property? "half" = some "lower" := by
        rw [hown]
        exact (View.isLowerHalf_iff.1 hj.lower).2
      have hsame : (w.block j).name = (w.block i).name := by rw [hown, hblock, hj.same, hn]
      rw [Rule.door_turn_of_same (by rwa [hown]) hl hj.above hsame, hhalves, hhalves]
      exact h.join hj hlt
    · have heven : streakBelow (v.isLowerHalf n) i % 2 = 0 := by
        have hodd := mt (exists_joins_iff hn).2 hupper
        omega
      rw [Rule.door_turn_of_pass]
      · exact h.pass fun j hj => hjoins ⟨j, hj⟩
      · intro _ hl j hj hname
        rw [hown] at hl hname
        rw [habove j hj, hn] at hname
        exact hjoins ⟨j, hj, View.isLowerHalf_iff.2 ⟨hn, hl⟩, hname, heven⟩

/-! ## all turns -/

/-- **The turns of all cells of a door from below** join all its pairs, and change nothing else. -/
theorem apply {rest : List ColumnCell} (h : AfterTurns v n done w)
    (hsorted : (done ++ rest).Pairwise fun i j => i < j)
    (hall : ∀ i, i ∈ done ++ rest ↔ (v.block i).name = n)
    (hd : ∀ i ∈ rest, (v.block i).nameEndsWith "_door" = true) (log : Array Event) :
    AfterTurns v n (done ++ rest) (Rule.door.apply rest w log).1 := by
  induction rest generalizing done w log with
  | nil =>
    rw [List.append_nil]
    exact h
  | cons i rest ih =>
    obtain ⟨-, hi, hlt⟩ := List.pairwise_append.1 hsorted
    have hn : (v.block i).name = n := (hall i).1 (List.mem_append_right _ List.mem_cons_self)
    have hbelow : ∀ k, k < i → (v.block k).name = n → k ∈ done := by
      intro k hki hk
      rcases List.mem_append.1 ((hall k).2 hk) with hk | hk
      · exact hk
      · rcases List.mem_cons.1 hk with rfl | hk
        · exact absurd hki (Fin.lt_irrefl k)
        · exact absurd hki (Fin.lt_asymm ((List.pairwise_cons.1 hi).1 k hk))
    have hturn := h.turn hn (hd i List.mem_cons_self)
      (fun k hk => hlt k hk i List.mem_cons_self) hbelow log
    have hassoc : done ++ i :: rest = done ++ [i] ++ rest := by
      rw [List.append_assoc, List.singleton_append]
    rw [hassoc] at hsorted hall ⊢
    rw [Rule.apply_cons]
    exact ih hturn hsorted hall (fun k hk => hd k (List.mem_cons_of_mem i hk)) _

/-- In the end a cell is the lower or the upper one of a pair, or of no pair and as it was. -/
theorem block_cases (h : AfterTurns v n done w) (hall : ∀ i, i ∈ done ↔ (v.block i).name = n)
    (hi : (v.block i).name = n) :
    (∃ j, Joins v n i j ∧ w.block i = v.joinedHalf i j "lower") ∨
      (∃ k, Joins v n k i ∧ w.block i = v.joinedHalf k i "upper") ∨
      ((∀ j, ¬Joins v n i j) ∧ (∀ k, ¬Joins v n k i) ∧ w.block i = v.block i) := by
  by_cases hlower : ∃ j, Joins v n i j
  · obtain ⟨j, hj⟩ := hlower
    exact .inl ⟨j, hj, h.lower i ((hall i).2 hi) j hj⟩
  · by_cases hupper : ∃ k, Joins v n k i
    · obtain ⟨k, hk⟩ := hupper
      have hkd := (hall k).2 (View.isLowerHalf_iff.1 hk.lower).1
      exact .inr (.inl ⟨k, hk, h.upper k hkd i hk⟩)
    · refine .inr (.inr ⟨fun j hj => hlower ⟨j, hj⟩, fun k hk => hupper ⟨k, hk⟩, ?_⟩)
      refine h.other i fun k _ j hj => ⟨?_, ?_⟩
      · rintro rfl
        exact hlower ⟨j, hj⟩
      · rintro rfl
        exact hupper ⟨k, hj⟩

/-- A door stays that door. -/
theorem name_eq (h : AfterTurns v n done w) (hall : ∀ i, i ∈ done ↔ (v.block i).name = n)
    (hi : (v.block i).name = n) : (w.block i).name = n := by
  obtain ⟨j, -, hw⟩ | ⟨k, hk, hw⟩ | ⟨-, -, hw⟩ := h.block_cases hall hi
  · rw [hw]
    exact hi
  · rw [hw]
    exact (View.isLowerHalf_iff.1 hk.lower).1
  · rw [hw, hi]

/-- **Which half each cell is in the end**: an upper half when an odd number of lower halves of its
door stand right below it, and otherwise the half that it was. -/
theorem half_eq (h : AfterTurns v n done w) (hall : ∀ i, i ∈ done ↔ (v.block i).name = n)
    (hi : (v.block i).name = n) :
    (w.block i).property? "half" =
      if streakBelow (v.isLowerHalf n) i % 2 = 1 then some "upper"
      else (v.block i).property? "half" := by
  obtain ⟨j, hj, hw⟩ | ⟨k, hk, hw⟩ | ⟨-, hno, hw⟩ := h.block_cases hall hi
  · have heven : ¬streakBelow (v.isLowerHalf n) i % 2 = 1 := by
      rw [hj.even]
      decide
    rw [hw, View.property?_half_joinedHalf, if_neg heven, (View.isLowerHalf_iff.1 hj.lower).2]
  · rw [hw, View.property?_half_joinedHalf, if_pos ((exists_joins_iff hi).1 ⟨k, hk⟩)]
  · have heven := mt (exists_joins_iff hi).2 fun ⟨k, hk⟩ => hno k hk
    rw [hw, if_neg heven]

end AfterTurns

end

end Flattening
