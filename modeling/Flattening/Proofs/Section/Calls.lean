import Flattening.Proofs.Section.Decode

/-!
# A section as a store over its palette

A section is upgraded, written to, drained and read, in any order and any number of times.  Only a
decoded section takes a state; so of all calls those after the first upgrade count, and a section
without block data takes none of them.  Behind the cells stands a palette, and whatever the calls
are it lists each state once and only grows at its end.

* `DecodedCells.block_after`    a cell has the state that was last set;
* `DecodedCells.prefix_after`   the palette grows at its end;
* `Section.decoded?_after`      which calls count;
* `Section.after_calls`         all of it, for a section that was read.
-/

namespace Flattening

/-! ## calls -/

/-- what can be asked of a section -/
inductive Section.Call where
  | upgrade
  | setBlock (c : Cell) (b : BlockState)
  /-- takes the cells that wait for a rule out of the section -/
  | takePending
  | block (c : Cell)
  deriving DecidableEq

namespace Section.Call

/-- the state that the call sets at the cell -/
def set? (c : Cell) : Call → Option BlockState
  | .setBlock e b => if e = c then some b else none
  | _ => none

def isSet : Call → Bool
  | .setBlock _ _ => true
  | _ => false

end Section.Call

namespace Section

open Call

/-- the state that was last set at the cell -/
def lastSet? (c : Cell) (calls : List Call) : Option BlockState :=
  calls.reverse.findSome? (set? c)

/-- the calls after the first upgrade -/
def sinceUpgrade : List Call → List Call
  | [] => []
  | .upgrade :: calls => calls
  | _ :: calls => sinceUpgrade calls

theorem lastSet?_concat (c : Cell) (calls : List Call) (k : Call) :
    lastSet? c (calls ++ [k]) = (set? c k).or (lastSet? c calls) := by
  rw [lastSet?, List.reverse_concat, List.findSome?_cons, lastSet?]
  cases set? c k <;> rfl

theorem sinceUpgrade_sublist (calls : List Call) : (sinceUpgrade calls).Sublist calls := by
  induction calls with
  | nil => exact List.Sublist.refl []
  | cons k calls ih =>
    cases k with
    | upgrade => exact List.sublist_cons_self _ calls
    | setBlock | takePending | block => exact ih.cons _

end Section

/-! ## decoded cells -/

theorem Palette.prefix_insert (p : Palette) (s : BlockState) :
    p.states.toList <+: (p.insert s).states.toList := by
  by_cases h : s ∈ p.states
  · exact (insert_of_mem h).symm ▸ List.prefix_rfl
  · rw [states_insert_of_notMem h, Array.toList_push]
    exact List.prefix_append _ [s]

namespace DecodedCells

open Section (Call lastSet?)

/-- There is nothing left to decode, and reading changes nothing. -/
def call (d : DecodedCells) : Call → DecodedCells
  | .setBlock c b => d.setBlock c b
  | .takePending => { d with pending := [] }
  | .upgrade | .block _ => d

def after (d : DecodedCells) (calls : List Call) : DecodedCells := calls.foldl call d

variable {d : DecodedCells}

theorem after_concat (d : DecodedCells) (calls : List Call) (k : Call) :
    d.after (calls ++ [k]) = (d.after calls).call k := by
  rw [after, List.foldl_append]
  rfl

theorem block_call (d : DecodedCells) (k : Call) (c : Cell) :
    (d.call k).block c = (k.set? c).getD (d.block c) := by
  cases k with
  | setBlock e b =>
    rw [Call.set?]
    split
    · rename_i he
      rw [he]
      exact d.block_set_self c b
    · rename_i he
      exact block_set_ne (fun h => he h.symm) d b
  | upgrade | takePending | block => rfl

theorem block_after (d : DecodedCells) (calls : List Call) (c : Cell) :
    (d.after calls).block c = (lastSet? c calls).getD (d.block c) := by
  induction calls using List.reverseRecOn with
  | nil => rfl
  | append_singleton calls k ih =>
    rw [after_concat, block_call, Section.lastSet?_concat, ih]
    cases k.set? c <;> rfl

theorem waiting_call (d : DecodedCells) (k : Call) :
    (d.call k).waiting = if k = .takePending then [] else d.waiting := by
  cases k <;> rfl

theorem waiting_after (d : DecodedCells) (calls : List Call) :
    (d.after calls).waiting = if .takePending ∈ calls then [] else d.waiting := by
  induction calls using List.reverseRecOn with
  | nil => rfl
  | append_singleton calls k ih =>
    rw [after_concat, waiting_call, ih]
    by_cases hk : k = .takePending
    · rw [if_pos hk, if_pos (by rw [hk]; exact List.mem_concat_self)]
    · have hmem : Call.takePending ∈ calls ++ [k] ↔ Call.takePending ∈ calls := by
        rw [List.mem_append, List.mem_singleton, or_iff_left fun h => hk h.symm]
      rw [if_neg hk]
      simp only [hmem]

theorem prefix_call (d : DecodedCells) (k : Call) :
    d.palette.states.toList <+: (d.call k).palette.states.toList := by
  cases k with
  | setBlock c b => exact d.palette.prefix_insert b
  | upgrade | takePending | block => exact List.prefix_rfl

theorem prefix_after (d : DecodedCells) (calls : List Call) :
    d.palette.states.toList <+: (d.after calls).palette.states.toList := by
  induction calls generalizing d with
  | nil => exact List.prefix_rfl
  | cons k calls ih => exact (d.prefix_call k).trans (ih (d.call k))

theorem Bounded.call {n : Nat} (h : d.Bounded n) (k : Call) :
    (d.call k).Bounded (n + if k.isSet then 1 else 0) := by
  cases k with
  | setBlock c b => exact h.setBlock c b
  | takePending => exact ⟨h.air_first, h.size_le⟩
  | upgrade | block => exact h

theorem Bounded.after {n : Nat} (h : d.Bounded n) (calls : List Call) :
    (d.after calls).Bounded (n + calls.countP Call.isSet) := by
  induction calls generalizing d n with
  | nil => exact h
  | cons k calls ih =>
    rw [List.countP_cons, Nat.add_comm (List.countP _ _), ← Nat.add_assoc]
    exact ih (h.call k)

/-- The palette starts with air, lists no state twice, finds each state under its index, has all
indices that the cells hold, and indices fit into 32 bits. -/
structure WellIndexed (d : DecodedCells) : Prop where
  air_first : d.palette.get? 0 = some .air
  nodup : d.palette.states.toList.Nodup
  index?_get : ∀ i b, d.palette.get? i = some b → d.palette.index? b = some i
  cells_lt : ∀ c, d.cells.get c < d.palette.size
  size_lt : d.palette.size < 2 ^ 32

theorem Bounded.wellIndexed {n : Nat} (h : d.Bounded n) (hn : n < 2 ^ 32) : d.WellIndexed where
  air_first := h.air_first
  nodup := d.palette.nodup
  index?_get _ _ hb := Palette.index?_eq_some_iff.2 hb
  cells_lt := d.cells_lt
  size_lt := Nat.lt_of_le_of_lt h.size_le hn

end DecodedCells

/-! ## sections -/

namespace Section

def call (s : Section) : Call → Section
  | .upgrade => s.upgrade.1
  | .setBlock c b => s.setBlock c b
  | .takePending => s.clearPending
  | .block _ => s

def after (s : Section) (calls : List Call) : Section := calls.foldl call s

theorem after_bare (y : Fin 16) (m : Entries String Tag) (calls : List Call) :
    after ⟨y, m, .bare⟩ calls = ⟨y, m, .bare⟩ := by
  induction calls with
  | nil => rfl
  | cons k calls ih => cases k <;> exact ih

theorem after_decoded (y : Fin 16) (m : Entries String Tag) (d : DecodedCells)
    (calls : List Call) :
    after ⟨y, m, .decoded d⟩ calls = ⟨y, m, .decoded (d.after calls)⟩ := by
  induction calls generalizing d with
  | nil => rfl
  | cons k calls ih => cases k <;> exact ih _

/-- Before the first upgrade no call has an effect. -/
theorem after_legacy (y : Fin 16) (m : Entries String Tag) (l : LegacyLayers)
    (calls : List Call) :
    after ⟨y, m, .legacy l⟩ calls = if .upgrade ∈ calls then
        ⟨y, m, .decoded ((DecodedCells.decode l).after (sinceUpgrade calls))⟩
      else ⟨y, m, .legacy l⟩ := by
  induction calls with
  | nil => rfl
  | cons k calls ih =>
    cases k with
    | upgrade =>
      rw [if_pos List.mem_cons_self]
      exact after_decoded y m _ calls
    | setBlock | takePending | block =>
      simp only [List.mem_cons, reduceCtorEq, false_or]
      exact ih

/-- **Only the calls after the first upgrade count**, and only with block data. -/
theorem decoded?_after {s : Section} (hs : s.decoded? = none) (calls : List Call) :
    (s.after calls).decoded? = if .upgrade ∈ calls then
        s.decode.decoded?.map fun d => d.after (sinceUpgrade calls)
      else none := by
  obtain ⟨y, m, k⟩ := s
  cases k with
  | bare =>
    rw [after_bare, decode]
    exact (ite_self none).symm
  | legacy l =>
    rw [after_legacy]
    split
    · rfl
    · rfl
  | decoded d => cases hs

theorem upgrade_after {calls : List Call} (h : .upgrade ∈ calls) (s : Section) :
    (s.after calls).upgrade = (s.after calls, ∅) := by
  obtain ⟨y, m, k⟩ := s
  cases k with
  | bare => rw [after_bare]; rfl
  | legacy l => rw [after_legacy, if_pos h]; rfl
  | decoded d => rw [after_decoded]; rfl

theorem palette?_after {s : Section} {calls : List Call} {p q : Palette}
    (hp : s.palette? = some p) (hq : (s.after calls).palette? = some q) :
    p.states.toList <+: q.states.toList := by
  obtain ⟨y, m, k⟩ := s
  cases k with
  | bare | legacy l => cases hp
  | decoded d =>
    rw [after_decoded] at hq
    cases hp
    cases hq
    exact d.prefix_after calls

/-! ## all of it -/

/-- The section has block data and was upgraded. -/
def Ready (t : Tag) (calls : List Call) : Prop := (t.get? "Blocks").isSome ∧ .upgrade ∈ calls

instance (t : Tag) (calls : List Call) : Decidable (Ready t calls) :=
  inferInstanceAs (Decidable (_ ∧ _))

theorem exists_decoded_of_ready {t : Tag} {s : Section} {calls : List Call}
    (h : ofTag? t = .ok s) (hready : Ready t calls) :
    ∃ d, s.decode.decoded? = some d ∧ d.Bounded 4097 ∧
      (∀ c, d.block c = Legacy.state (.ofNumber (cellNumber t c))) ∧
      (s.after calls).decoded? = some (d.after (sinceUpgrade calls)) := by
  obtain ⟨m, y, rfl, -, ⟨hnone, -⟩ | ⟨l, hl, rfl⟩⟩ := ofTag?_eq_ok_iff.1 h
  · have hblocks := (isSome_layers? hnone).trans hready.1
    cases hblocks
  · refine ⟨.decode l, rfl, DecodedCells.bounded_decode l, fun c => ?_, ?_⟩
    · rw [DecodedCells.block_decode, LegacyLayers.state, legacyId_eq hl]
    · rw [decoded?_after rfl, if_pos hready.2]
      rfl

theorem decoded?_of_not_ready {t : Tag} {s : Section} {calls : List Call}
    (h : ofTag? t = .ok s) (hready : ¬Ready t calls) : (s.after calls).decoded? = none := by
  obtain ⟨m, y, rfl, -, ⟨-, rfl⟩ | ⟨l, hl, rfl⟩⟩ := ofTag?_eq_ok_iff.1 h
  · rw [after_bare]
    rfl
  · rw [decoded?_after rfl, if_neg fun hu => hready ⟨(isSome_layers? hl).symm, hu⟩]

/-- What a section is like after calls, when `start` is the section that was read from the tag.
Only a decoded section takes a state, so a state counts as set from the first upgrade on. -/
structure AfterCalls (t : Tag) (start : Section) (calls : List Call) (s : Section) : Prop where
  block_eq : ∀ c, s.block c = if Ready t calls then
      (lastSet? c (sinceUpgrade calls)).getD (Legacy.state (.ofNumber (cellNumber t c)))
    else .air
  block_setBlock : ∀ c b e, e ≠ c → (s.setBlock c b).block e = s.block e
  decoded_iff : s.decoded?.isSome ↔ Ready t calls
  wellIndexed : ∀ d, s.decoded? = some d → d.WellIndexed
  palette_grows : ∀ more p q, s.palette? = some p → (s.after more).palette? = some q →
    p.states.toList <+: q.states.toList
  upgrade_again : .upgrade ∈ calls → s.upgrade = (s, ∅)
  pending_eq : s.pending = if Ready t calls ∧ .takePending ∉ sinceUpgrade calls then
      start.upgrade.1.pending
    else []

/-- **A section is a store over its palette.** -/
theorem after_calls {t : Tag} {s : Section} (h : ofTag? t = .ok s) (calls : List Call)
    (hsets : calls.countP Call.isSet < 2 ^ 32 - 4097) : AfterCalls t s calls (s.after calls) := by
  by_cases hready : Ready t calls
  · obtain ⟨d, hd, hbounded, hblock, hafter⟩ := exists_decoded_of_ready h hready
    have hcount := (sinceUpgrade_sublist calls).countP_le (p := Call.isSet)
    have hwell := (hbounded.after (sinceUpgrade calls)).wellIndexed (by omega)
    have hstart : s.upgrade.1.pending = d.waiting := by
      rw [pending, show s.upgrade.1.decoded? = some d from hd]
    refine ⟨fun c => ?_, fun c b e hne => block_setBlock_ne hne _ b, ?_, fun d' hd' => ?_,
      fun _ _ _ => palette?_after, fun hu => upgrade_after hu s, ?_⟩
    · rw [block, hafter, if_pos hready, ← hblock]
      exact d.block_after _ c
    · rw [hafter]
      exact iff_of_true rfl hready
    · rw [hafter] at hd'
      cases hd'
      exact hwell
    · rw [pending, hafter, hstart]
      show (d.after _).waiting = _
      rw [d.waiting_after]
      by_cases htaken : Call.takePending ∈ sinceUpgrade calls
      · rw [if_pos htaken, if_neg fun hn => hn.2 htaken]
      · rw [if_neg htaken, if_pos ⟨hready, htaken⟩]
  · have hafter := decoded?_of_not_ready h hready
    refine ⟨fun c => ?_, fun c b e hne => block_setBlock_ne hne _ b, ?_, fun d hd => ?_,
      fun _ _ _ => palette?_after, fun hu => upgrade_after hu s, ?_⟩
    · rw [block, hafter, if_neg hready]
    · rw [hafter]
      exact iff_of_false (by simp) hready
    · rw [hafter] at hd
      cases hd
    · rw [pending, hafter, if_neg fun hn => hready hn.1]

/-- The first state set comes too early, the second one in time. -/
def someCalls : List Call :=
  [.setBlock 0 (.plain "minecraft:stone"), .upgrade, .takePending,
    .setBlock 1 (.plain "minecraft:stone"), .block 1, .upgrade]

theorem after_calls_oddDoors : ∃ s, ofTag? (oddDoors 3) = .ok s ∧
    (s.after someCalls).block 0 = Legacy.state ⟨320, 0⟩ ∧
    (s.after someCalls).block 1 = .plain "minecraft:stone" ∧
    (s.after someCalls).block 3 = Legacy.state ⟨64, 8⟩ ∧ (s.after someCalls).pending = [] := by
  obtain ⟨s, hs⟩ : ∃ s, ofTag? (oddDoors 3) = .ok s := exists_ofTag?_sectionWithAll 3 _ _ _
  have hafter := after_calls hs someCalls (by decide)
  have hready : Ready (oddDoors 3) someCalls := ⟨rfl, List.mem_cons_of_mem _ List.mem_cons_self⟩
  refine ⟨s, hs, ?_, ?_, ?_, ?_⟩
  · rw [hafter.block_eq, if_pos hready, cellNumber_oddDoors]
    rfl
  · rw [hafter.block_eq, if_pos hready]
    rfl
  · rw [hafter.block_eq, if_pos hready, cellNumber_oddDoors]
    rfl
  · rw [hafter.pending_eq, if_neg fun h => h.2 List.mem_cons_self]

end Section

end Flattening
