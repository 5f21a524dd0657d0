import Flattening.Proofs.Rule.Sight

/-!
# Which block ids have the names that rules ask for

The catalogue gives a double plant to one block id and each door to one, and the blocks that
follow a block entity have names that no rule asks for.

* `state_cases`             a state is listed in a row of its block id, or it is air;
* `of_everyState`           so what its row is checked for holds of the state;
* `sight_state_of_known`    the class of the block ids that have one;
* `sight_state_plant_iff`, `sight_state_door_iff`   no other block id is a double plant or a door.
-/

namespace Flattening.Legacy

/-- A state of the catalogue is listed in a row of its block id, or it is air. -/
theorem state_cases (l : LegacyId) :
    (∃ r ∈ catalogue, r.id = l.block ∧ ∃ s ∈ r.states, state l = .ofPairs s.2.1 s.2.2) ∨
      (state l = .air ∧ ∀ r, row? l.block = some r → r.state? 0 = none) := by
  have hmem : ∀ {r : Row} {k : Nat} {b : BlockState}, r.state? k = some b →
      ∃ s ∈ r.states, b = .ofPairs s.2.1 s.2.2 := by
    intro r k b h
    obtain ⟨s, hs, rfl⟩ := Option.map_eq_some_iff.1 h
    exact ⟨(k, s), Entries.mem_of_get? hs, rfl⟩
  unfold state
  cases hr : row? l.block with
  | none => exact .inr ⟨rfl, nofun⟩
  | some r =>
    have hfind : catalogue.find? (fun r => r.id == l.block) = some r := hr
    have hid : r.id = l.block := by
      have h := List.find?_some hfind
      exact beq_iff_eq.1 h
    have hcat : r ∈ catalogue := List.mem_of_find?_eq_some hr
    dsimp only
    cases hd : r.state? l.data with
    | some b =>
      obtain ⟨s, hs, rfl⟩ := hmem hd
      exact .inl ⟨r, hcat, hid, s, hs, rfl⟩
    | none =>
      cases h0 : r.state? 0 with
      | some b =>
        obtain ⟨s, hs, rfl⟩ := hmem h0
        exact .inl ⟨r, hcat, hid, s, hs, rfl⟩
      | none =>
        refine .inr ⟨rfl, ?_⟩
        rintro r' hr'
        cases hr'
        exact h0

/-- The block id has a state, and all its states pass the check. -/
def everyState (p : BlockState → Bool) (b : Nat) : Bool :=
  (row? b).any fun r => (r.state? 0).isSome && r.states.all fun s => p (.ofPairs s.2.1 s.2.2)

theorem of_everyState {p : BlockState → Bool} {l : LegacyId} (h : everyState p l.block = true) :
    p (state l) = true := by
  obtain ⟨r, hr, h⟩ := (Option.any_eq_true _ _).1 h
  rw [Bool.and_eq_true, List.all_eq_true] at h
  have hlisted : ∀ k s, r.state? k = some s → p s = true := by
    intro k s hs
    obtain ⟨q, hq, rfl⟩ := Option.map_eq_some_iff.1 hs
    exact h.2 (k, q) (Entries.mem_of_get? hq)
  cases hd : r.state? l.data with
  | some s =>
    rw [state_of_row hr hd]
    exact hlisted l.data s hd
  | none =>
    obtain ⟨s, hs⟩ := Option.isSome_iff_exists.1 h.1
    have hstate : state l = s := by
      rw [state, hr]
      dsimp only
      rw [hd, hs]
      rfl
    rw [hstate]
    exact hlisted 0 s hs

/-! ## block ids with a class of their own -/

/-- the class of every state of a block id, for double plants, doors, pumpkins and the blocks
that follow a block entity -/
def knownSights : Entries Nat Sight :=
  (175, .plant) :: (doorNames.map fun d => (d.1, .door d.2)) ++
    [(25, .other), (26, .other), (86, .other), (140, .other), (144, .other), (176, .other),
     (177, .other)]

/-- the bytes of a text as one number; unequal numbers are told apart at once -/
def bytesNumber (s : String) : Nat :=
  s.toByteArray.data.toList.foldl (fun n b => 256 * n + b.toNat) 0

/-- the numbers of the names that only known block ids have -/
def ownNames : List Nat := (Rule.doublePlants ++ doorNames.map Prod.snd).map bytesNumber

/-- A known block id has only names of its class; any other has none of a double plant or of
a door. -/
def Row.keepsToClass (r : Row) : Bool :=
  match Entries.get? r.id knownSights with
  | some x => r.states.all fun s => Sight.ofName s.2.1 == x
  | none => r.states.all fun s => !ownNames.contains (bytesNumber s.2.1)

theorem keepsToClass_of_mem : ∀ r ∈ catalogue, r.keepsToClass = true := by decide +kernel

theorem isSome_state?_zero :
    ∀ p ∈ knownSights, ∃ r, row? p.1 = some r ∧ (r.state? 0).isSome := by
  have h : ∀ p ∈ knownSights, ((row? p.1).any fun r => (r.state? 0).isSome) = true := by
    decide +kernel
  intro p hp
  have hp' := h p hp
  cases hr : row? p.1 with
  | none => rw [hr] at hp'; cases hp'
  | some r =>
    rw [hr] at hp'
    exact ⟨r, rfl, hp'⟩

theorem sight_state_of_known {l : LegacyId} {x : Sight}
    (h : Entries.get? l.block knownSights = some x) : (state l).sight = x := by
  obtain ⟨r, hr, hid, s, hs, hstate⟩ | ⟨-, hnone⟩ := state_cases l
  · have hk := keepsToClass_of_mem r hr
    rw [Row.keepsToClass, hid, h] at hk
    have hs' := List.all_eq_true.1 hk s hs
    rw [hstate]
    exact beq_iff_eq.1 hs'
  · obtain ⟨r, hr, h0⟩ := isSome_state?_zero _ (Entries.mem_of_get? h)
    rw [hnone r hr] at h0
    cases h0

theorem sight_state_of_unknown {l : LegacyId} (h : Entries.get? l.block knownSights = none) :
    (state l).name ∉ Rule.doublePlants ++ doorNames.map Prod.snd := by
  obtain ⟨r, hr, hid, s, hs, hstate⟩ | ⟨hair, -⟩ := state_cases l
  · have hk := keepsToClass_of_mem r hr
    rw [Row.keepsToClass, hid, h] at hk
    have hs' := List.all_eq_true.1 hk s hs
    intro hmem
    have hc : ownNames.contains (bytesNumber s.2.1) = true := by
      rw [hstate] at hmem
      exact List.contains_iff_mem.2 (List.mem_map_of_mem hmem)
    rw [hc] at hs'
    cases hs'
  · rw [hair]
    decide +kernel

theorem sight_state_plant_iff (l : LegacyId) : (state l).sight = .plant ↔ l.block = 175 := by
  constructor
  · intro h
    cases hk : Entries.get? l.block knownSights with
    | none =>
      have hn := Sight.ofName_eq_plant_iff.1 h
      exact absurd (List.mem_append_left _ hn) (sight_state_of_unknown hk)
    | some x =>
      rw [sight_state_of_known hk] at h
      subst h
      have hm := Entries.mem_of_get? hk
      have hall : ∀ p ∈ knownSights, p.2 = .plant → p.1 = 175 := by decide +kernel
      exact hall _ hm rfl
  · intro h
    refine sight_state_of_known ?_
    rw [h]
    decide +kernel

theorem sight_state_door_iff (l : LegacyId) (n : String) :
    (state l).sight = .door n ↔ (l.block, n) ∈ doorNames := by
  constructor
  · intro h
    cases hk : Entries.get? l.block knownSights with
    | none =>
      obtain ⟨hn, hd⟩ := Sight.ofName_eq_door_iff.1 h
      rw [← hn] at hd
      exact absurd (List.mem_append_right _ hd) (sight_state_of_unknown hk)
    | some x =>
      rw [sight_state_of_known hk] at h
      subst h
      have hm := Entries.mem_of_get? hk
      have hall : ∀ p ∈ knownSights, ∀ d, p.2 = .door d → (p.1, d) ∈ doorNames := by
        intro p hp d hd
        rcases List.mem_append.1 hp with hp | hp
        · rcases List.mem_cons.1 hp with rfl | hp
          · cases hd
          · obtain ⟨q, hq, rfl⟩ := List.mem_map.1 hp
            cases hd
            exact hq
        · have hother : ∀ p ∈ ([(25, .other), (26, .other), (86, .other), (140, .other),
              (144, .other), (176, .other), (177, .other)] : Entries Nat Sight),
              p.2 = .other := by decide
          rw [hother p hp] at hd
          cases hd
      exact hall _ hm n rfl
  · intro h
    have hall : ∀ d ∈ doorNames, Entries.get? d.1 knownSights = some (.door d.2) := by
      decide +kernel
    exact sight_state_of_known (hall _ h)

end Flattening.Legacy
