import Flattening.Proofs.Block.Brief
import Flattening.Proofs.Legacy.Names

/-!
# Rules make states that can be written

The states of the catalogue have short texts, and what a rule writes has only texts of its own
and of the states that it looks at.  No text of a block entity comes into a state.

* `brief_state`         the catalogue has short texts;
* `brief_recordState?`  what a block entity makes of a brief state is brief;
* `brief_of_plan`       among brief states a rule writes brief states.
-/

namespace Flattening

namespace Legacy

/-- All names, keys and values of a row have at most 65535 bytes. -/
def Row.isBrief (r : Row) : Bool :=
  r.states.all fun s => decide (s.2.1.utf8ByteSize ≤ 65535) &&
    s.2.2.all fun p => decide (p.1.utf8ByteSize ≤ 65535) && decide (p.2.utf8ByteSize ≤ 65535)

theorem isBrief_of_mem : ∀ r ∈ catalogue, r.isBrief = true := by decide +kernel

theorem brief_state (l : LegacyId) : (state l).Brief := by
  obtain ⟨r, hr, -, s, hs, hstate⟩ | ⟨hair, -⟩ := state_cases l
  · have h := List.all_eq_true.1 (isBrief_of_mem r hr) s hs
    rw [Bool.and_eq_true, decide_eq_true_eq, List.all_eq_true] at h
    rw [hstate]
    refine BlockState.brief_ofPairs h.1 fun p hp => ?_
    have hp' := h.2 p hp
    rwa [Bool.and_eq_true, decide_eq_true_eq, decide_eq_true_eq] at hp'
  · rw [hair]
    exact BlockState.brief_air

end Legacy

theorem BlockState.Brief.propertyD {s : BlockState} (h : s.Brief) {key default : String}
    (hd : default.utf8ByteSize ≤ 65535) : (s.propertyD key default).utf8ByteSize ≤ 65535 := by
  rw [BlockState.propertyD]
  cases hp : s.property? key with
  | none => exact hd
  | some v => exact h.property? hp

namespace Rule

/-! ## what a block entity makes of a cell -/

theorem brief_recordNames : ∀ n ∈ recordNames, n.utf8ByteSize ≤ 65535 := by decide +kernel

theorem size_toString_le : ∀ n < 256, (toString n).utf8ByteSize ≤ 65535 := by decide +kernel

theorem size_boolText_le (b : Bool) : (boolText b).utf8ByteSize ≤ 65535 := by
  cases b <;> decide

variable {s b : BlockState} {t : Tag}

theorem brief_noteBlockState (hs : s.Brief) (t : Tag) : (noteBlockState s t).Brief := by
  have hnote : (clamp 0 24 ((recordInt? t "note").getD 0)).toNat < 25 := by
    unfold clamp
    omega
  refine BlockState.brief_ofPairs (by decide) ?_
  simp only [List.forall_mem_cons]
  exact ⟨⟨by decide, hs.propertyD (by decide)⟩, ⟨by decide, size_toString_le _ (by omega)⟩,
    ⟨by decide, size_boolText_le _⟩, nofun⟩

/-- The name is one of few, and the properties are those of the cell or made of numbers. -/
theorem brief_recordState? {r : Rule} (hs : s.Brief) (h : r.recordState? s t = some b) :
    b.Brief := by
  have hname := brief_recordNames b.name (name_recordState? h)
  cases r with
  | noteBlock =>
    cases h
    exact brief_noteBlockState hs t
  | bed =>
    obtain ⟨dye, -, rfl⟩ := cases_bedState? h
    exact hs.renamed hname
  | flowerPot =>
    cases h
    obtain ⟨n, -, hn⟩ := cases_flowerPotState t
    rw [hn] at hname ⊢
    exact BlockState.brief_plain hname
  | skull =>
    cases h
    obtain ⟨k, -, hk | ⟨n, hn, hk⟩⟩ := cases_skullState s t
    · rw [hk] at hname ⊢
      refine BlockState.brief_ofPairs hname ?_
      simp only [List.forall_mem_cons]
      exact ⟨⟨by decide, hs.propertyD (by decide)⟩, nofun⟩
    · rw [hk] at hname ⊢
      refine BlockState.brief_ofPairs hname ?_
      simp only [List.forall_mem_cons]
      exact ⟨⟨by decide, size_toString_le n (by omega)⟩, nofun⟩
  | banner =>
    obtain ⟨dye, -, rfl | rfl⟩ := cases_bannerState? h
    · exact hs.renamed hname
    · exact hs.renamed hname
  | snowyGround | door | pumpkin | doublePlant => cases h

/-! ## all rules -/

theorem brief_doorHalf {name facing half hinge opened powered : String}
    (h : ∀ v ∈ [name, facing, half, hinge, opened, powered], v.utf8ByteSize ≤ 65535) :
    (doorHalf name facing half hinge opened powered).Brief := by
  simp only [List.forall_mem_cons] at h
  obtain ⟨hname, hfacing, hhalf, hhinge, hopened, hpowered, -⟩ := h
  refine BlockState.brief_ofPairs hname ?_
  simp only [List.forall_mem_cons]
  exact ⟨⟨by decide, hfacing⟩, ⟨by decide, hhalf⟩, ⟨by decide, hhinge⟩, ⟨by decide, hopened⟩,
    ⟨by decide, hpowered⟩, nofun⟩

theorem brief_of_planDoor {v : View} {i : ColumnCell} {e : Edit} (h : planDoor v i = .ok e)
    (hv : ∀ j, (v.block j).Brief) : ∀ w ∈ e.writes, w.2.Brief := by
  obtain rfl | ⟨j, -, -, -, -, rfl⟩ := cases_planDoor h
  · exact fun w hw => absurd hw List.not_mem_nil
  · have hfacing : ((v.block i).propertyD "facing" "east").utf8ByteSize ≤ 65535 :=
      (hv i).propertyD (by decide)
    have hopened : ((v.block i).propertyD "open" "false").utf8ByteSize ≤ 65535 :=
      (hv i).propertyD (by decide)
    have hhinge : (if v.fromAlpha then "left"
        else (v.block j).propertyD "hinge" "left").utf8ByteSize ≤ 65535 := by
      split
      · decide
      · exact (hv j).propertyD (by decide)
    have hpowered : (if v.fromAlpha then "false"
        else (v.block j).propertyD "powered" "false").utf8ByteSize ≤ 65535 := by
      split
      · decide
      · exact (hv j).propertyD (by decide)
    intro w hw
    rcases List.mem_cons.1 hw with rfl | hw
    · refine brief_doorHalf ?_
      simp only [List.forall_mem_cons]
      exact ⟨(hv i).name, hfacing, by decide, hhinge, hopened, hpowered, nofun⟩
    · rw [List.mem_singleton.1 hw]
      refine brief_doorHalf ?_
      simp only [List.forall_mem_cons]
      exact ⟨(hv i).name, hfacing, by decide, hhinge, hopened, hpowered, nofun⟩

/-- **Among brief states a rule writes brief states.** -/
theorem brief_of_plan {r : Rule} {v : View} {i : ColumnCell} {e : Edit} (h : r.plan v i = .ok e)
    (hv : ∀ j, (v.block j).Brief) : ∀ w ∈ e.writes, w.2.Brief := by
  cases r with
  | noteBlock | bed | flowerPot | skull | banner =>
    obtain ⟨t, -, ⟨-, rfl⟩ | ⟨s, hs, rfl⟩⟩ := cases_of_recordDriven rfl h
    · exact fun w hw => absurd hw List.not_mem_nil
    · intro w hw
      rw [List.mem_singleton.1 hw]
      exact brief_recordState? (hv i) hs
  | snowyGround =>
    obtain rfl | ⟨j, -, -, -, rfl⟩ := cases_planSnowyGround h
    · exact fun w hw => absurd hw List.not_mem_nil
    · intro w hw
      rw [List.mem_singleton.1 hw]
      exact (hv i).withProperty (by decide) (by decide)
  | pumpkin =>
    obtain rfl | ⟨j, -, -, -, rfl⟩ := cases_planPumpkin h
    · exact fun w hw => absurd hw List.not_mem_nil
    · intro w hw
      rw [List.mem_singleton.1 hw]
      exact BlockState.brief_plain (by decide)
  | doublePlant =>
    obtain rfl | ⟨j, -, -, -, rfl⟩ := cases_planDoublePlant h
    · exact fun w hw => absurd hw List.not_mem_nil
    · intro w hw
      rw [List.mem_singleton.1 hw]
      refine BlockState.brief_ofPairs (hv j).name fun p hp => ?_
      rw [List.mem_singleton.1 hp]
      decide
  | door => exact brief_of_planDoor h hv

end Rule

end Flattening
