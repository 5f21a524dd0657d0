import Flattening.Proofs.Chunk.RecordList
import Mathlib.Data.List.Forall2

/-!
# Block entities over a run of calls

Block entities are read from a list, and then put into cells and taken from them in any order.
The history is all calls that put one in or took one out, those of the list first; it settles
what is held in the end and how it comes out.

* `Current`, `FirstBefore`   the cell holds this one; the cell was filled before that one was;
* `Tracks`        what the cells know of the history;
* `Tracks.insert`, `Tracks.take`, `Tracks.addStray`   each step keeps it;
* `tracks_ofRecords`   reading a list begins it;
* `follows_run`   what is held after any calls, and in which order it is drained.
-/

namespace Flattening.BlockEntities

inductive Call where
  | insert (i : ColumnCell) (t : Tag)
  | take (i : ColumnCell)

def Call.cell : Call → ColumnCell
  | .insert i _ => i
  | .take i => i

variable {ε : Type}

def call (b : BlockEntities) : Call → Attempt ε BlockEntities
  | .insert i t => b.insertReporting i t
  | .take i => return b.remove i

def run (b : BlockEntities) (calls : List Call) : Attempt ε BlockEntities := calls.foldlM call b

/-- the calls that a list of records amounts to -/
def listedCalls (x z : Int32) (records : List Tag) : List Call :=
  records.filterMap fun t => (cellOf? x z t).map fun i => .insert i t

/-! ## histories -/

variable {history : List Call}

/-- `t` is what was put into the cell last, and it was not taken since. -/
def Current (history : List Call) (i : ColumnCell) (t : Tag) : Prop :=
  ∃ before after, history = before ++ .insert i t :: after ∧ ∀ k ∈ after, k.cell ≠ i

/-- The cell `i` was filled, and `j` was not filled before. -/
def FirstBefore (history : List Call) (i j : ColumnCell) : Prop :=
  ∃ before t after, history = before ++ .insert i t :: after ∧ ∀ u, .insert j u ∉ before

theorem current_concat {k : Call} {i : ColumnCell} {t : Tag} :
    Current (history ++ [k]) i t ↔ k = .insert i t ∨ k.cell ≠ i ∧ Current history i t := by
  constructor
  · rintro ⟨before, after, h, hafter⟩
    -- the call added is the last one of `after`, unless there is none
    rcases List.eq_nil_or_concat after with rfl | ⟨after', k', rfl⟩
    · obtain ⟨-, hk⟩ := List.append_inj' h rfl
      exact .inl (List.cons.inj hk).1
    · rw [List.concat_eq_append, ← List.cons_append, ← List.append_assoc] at h
      obtain ⟨h, hk⟩ := List.append_inj' h rfl
      have hk : k = k' := (List.cons.inj hk).1
      have hmem : k ∈ after'.concat k' := by
        rw [hk, List.concat_eq_append]
        exact List.mem_append_right after' List.mem_cons_self
      refine .inr ⟨hafter k hmem, before, after', h, fun m hm => hafter m ?_⟩
      rw [List.concat_eq_append]
      exact List.mem_append_left _ hm
  · rintro (rfl | ⟨hk, before, after, rfl, hafter⟩)
    · exact ⟨history, [], rfl, fun m hm => absurd hm List.not_mem_nil⟩
    · refine ⟨before, after ++ [k], ?_, fun m hm => ?_⟩
      · rw [List.append_assoc, List.cons_append]
      · rcases List.mem_append.1 hm with hm | hm
        · exact hafter m hm
        · rwa [List.mem_singleton.1 hm]

theorem FirstBefore.concat {i j : ColumnCell} (h : FirstBefore history i j) (k : Call) :
    FirstBefore (history ++ [k]) i j := by
  obtain ⟨before, t, after, rfl, hbefore⟩ := h
  refine ⟨before, t, after ++ [k], ?_, hbefore⟩
  rw [List.append_assoc, List.cons_append]

/-- A cell that was filled was filled before any that was not. -/
theorem firstBefore_of_mem {i j : ColumnCell} {t : Tag} (hi : .insert i t ∈ history)
    (hj : ∀ u, Call.insert j u ∉ history) : FirstBefore history i j := by
  obtain ⟨before, after, rfl⟩ := List.append_of_mem hi
  exact ⟨before, t, after, rfl, fun u hu => hj u (List.mem_append_left _ hu)⟩

/-! ## what the cells know of the history -/

structure Tracks (history : List Call) (b : BlockEntities) : Prop where
  get?_iff : ∀ i t, b.get? i = some t ↔ Current history i t
  mem_cells_iff : ∀ i, i ∈ b.cells ↔ ∃ t, Call.insert i t ∈ history
  pairwise_cells : b.cells.Pairwise (FirstBefore history)

theorem tracks_empty : Tracks [] empty := by
  refine ⟨fun i t => ⟨nofun, ?_⟩, fun i => ⟨nofun, ?_⟩, List.Pairwise.nil⟩
  · rintro ⟨before, after, h, -⟩
    exact absurd h.symm (List.append_ne_nil_of_right_ne_nil before (List.cons_ne_nil _ after))
  · rintro ⟨t, ht⟩
    exact absurd ht List.not_mem_nil

variable {b : BlockEntities}

theorem Tracks.insert (h : Tracks history b) (i : ColumnCell) (t : Tag) :
    Tracks (history ++ [.insert i t]) (b.insert i t) := by
  refine ⟨fun j u => ?_, fun j => ?_, ?_⟩
  · rw [current_concat, Call.insert.injEq, Call.cell]
    by_cases hj : j = i
    · subst hj
      rw [get?_insert_self, Option.some.injEq]
      simp
    · have hne : ¬ i = j := fun he => hj he.symm
      rw [get?_insert_ne hj, h.get?_iff]
      simp only [hne, false_and, false_or, ne_eq, not_false_eq_true, true_and]
  · rw [mem_cells_insert, h.mem_cells_iff]
    constructor
    · rintro (⟨u, hu⟩ | rfl)
      · exact ⟨u, List.mem_append_left _ hu⟩
      · exact ⟨t, List.mem_append_right _ List.mem_cons_self⟩
    · rintro ⟨u, hu⟩
      rcases List.mem_append.1 hu with hu | hu
      · exact .inl ⟨u, hu⟩
      · exact .inr (Call.insert.inj (List.mem_singleton.1 hu)).1
  · rw [cells_insert]
    have hold := h.pairwise_cells.imp fun hij => FirstBefore.concat hij (.insert i t)
    split
    · exact hold
    · rename_i hi
      rw [h.mem_cells_iff, not_exists] at hi
      refine List.pairwise_append.2 ⟨hold, List.pairwise_singleton _ _, fun j hj k hk => ?_⟩
      obtain ⟨u, hu⟩ := (h.mem_cells_iff j).1 hj
      rw [List.mem_singleton.1 hk]
      exact (firstBefore_of_mem hu hi).concat _

theorem Tracks.take (h : Tracks history b) (i : ColumnCell) :
    Tracks (history ++ [.take i]) (b.remove i) := by
  refine ⟨fun j u => ?_, fun j => ?_, ?_⟩
  · rw [current_concat, or_iff_right nofun, Call.cell]
    by_cases hj : j = i
    · subst hj
      rw [get?_remove_self]
      exact ⟨nofun, fun hc => absurd rfl hc.1⟩
    · rw [get?_remove_ne hj, h.get?_iff, and_iff_right fun he => hj he.symm]
  · rw [cells_remove, h.mem_cells_iff]
    refine exists_congr fun u => ?_
    rw [List.mem_append, List.mem_singleton, or_iff_left nofun]
  · exact h.pairwise_cells.imp fun hij => hij.concat _

/-- A stray belongs to no cell. -/
theorem Tracks.addStray (h : Tracks history b) (t : Tag) : Tracks history (b.addStray t) :=
  ⟨h.get?_iff, h.mem_cells_iff, h.pairwise_cells⟩

/-! ## the whole run -/

theorem listedCalls_concat_of_none {x z : Int32} {t : Tag} (h : cellOf? x z t = none)
    (records : List Tag) : listedCalls x z (records ++ [t]) = listedCalls x z records := by
  rw [listedCalls, List.filterMap_append, List.filterMap_cons, h, Option.map_none,
    List.filterMap_nil, List.append_nil, listedCalls]

theorem listedCalls_concat_of_some {x z : Int32} {t : Tag} {i : ColumnCell}
    (h : cellOf? x z t = some i) (records : List Tag) :
    listedCalls x z (records ++ [t]) = listedCalls x z records ++ [.insert i t] := by
  rw [listedCalls, List.filterMap_append, List.filterMap_cons, h, Option.map_some,
    List.filterMap_nil, listedCalls]

theorem Tracks.withRecord {x z : Int32} {records : List Tag}
    (h : Tracks (listedCalls x z records) b) (t : Tag) :
    Tracks (listedCalls x z (records ++ [t])) (b.withRecord x z t) := by
  cases hc : cellOf? x z t with
  | none =>
    rw [withRecord_of_none hc, listedCalls_concat_of_none hc]
    exact h.addStray t
  | some i =>
    rw [withRecord_of_some hc, listedCalls_concat_of_some hc]
    exact h.insert i t

theorem tracks_ofRecords {x z : Int32} {records : List Tag} {log log' : Array Event}
    (h : ofRecords x z records log = .ok b log') : Tracks (listedCalls x z records) b := by
  have hall : ∀ l : List Tag, Tracks (listedCalls x z l) (l.foldl (withRecord x z) empty) := by
    intro l
    induction l using List.reverseRecOn with
    | nil => exact tracks_empty
    | append_singleton l t ih =>
      rw [List.foldl_append]
      exact ih.withRecord t
  rw [(ofRecords_eq_ok h).2.1]
  exact hall records

/-- A call succeeds, and leaves the strays as they are. -/
theorem exists_call (h : Tracks history b) (k : Call) (log : Array Event) :
    ∃ b' log', (call b k : Attempt ε BlockEntities) log = .ok b' log' ∧
      Tracks (history ++ [k]) b' ∧ b'.strays = b.strays := by
  cases k with
  | insert i t =>
    obtain ⟨log', hlog⟩ := exists_insertReporting (ε := ε) b i t log
    exact ⟨_, log', hlog, h.insert i t, rfl⟩
  | take i => exact ⟨_, _, rfl, h.take i, rfl⟩

theorem exists_run (h : Tracks history b) (calls : List Call) (log : Array Event) :
    ∃ b' log', (run b calls : Attempt ε BlockEntities) log = .ok b' log' ∧
      Tracks (history ++ calls) b' ∧ b'.strays = b.strays := by
  induction calls generalizing history b log with
  | nil =>
    rw [List.append_nil]
    exact ⟨b, log, rfl, h, rfl⟩
  | cons k calls ih =>
    obtain ⟨b₁, mid, hcall, h₁, hs₁⟩ := exists_call (ε := ε) h k log
    obtain ⟨b₂, log', hrun, h₂, hs₂⟩ := ih h₁ mid
    rw [List.append_assoc, List.singleton_append] at h₂
    refine ⟨b₂, log', ?_, h₂, hs₂.trans hs₁⟩
    rw [run, List.foldlM_cons]
    exact Attempt.bind_eq_ok.2 ⟨b₁, mid, hcall, hrun⟩

/-- what is held after the calls of the history, beside the strays -/
structure Follows (history : List Call) (strays : List Tag) (b : BlockEntities) : Prop where
  get?_iff : ∀ i t, b.get? i = some t ↔ Current history i t
  /-- the cells that hold one, the one filled first in front, and what they hold -/
  records_eq : ∃ cells held, b.records = held ++ strays ∧
    cells.Nodup ∧ (∀ i, i ∈ cells ↔ (b.get? i).isSome) ∧
    cells.Pairwise (FirstBefore history) ∧ List.Forall₂ (Current history) cells held ∧
    b.size = cells.length + strays.length
  length_records : b.records.length = b.size

theorem forall₂_filterMap {α β : Type} (f : α → Option β) (l : List α) :
    List.Forall₂ (fun a c => f a = some c) (l.filter fun a => (f a).isSome) (l.filterMap f) := by
  induction l with
  | nil => exact .nil
  | cons a l ih =>
    rw [List.filter_cons, List.filterMap_cons]
    cases h : f a with
    | none => exact ih
    | some c => exact .cons h ih

theorem Tracks.follows (h : Tracks history b) : Follows history b.strays b := by
  have hheld := forall₂_filterMap b.get? b.cells
  refine ⟨h.get?_iff, ⟨_, _, b.records_eq, b.nodup_cells.filter _, fun i => ?_,
    h.pairwise_cells.filter _, hheld.imp fun i t => (h.get?_iff i t).1, ?_⟩, b.length_records⟩
  · rw [List.mem_filter, and_iff_right_iff_imp]
    exact mem_cells_of_isSome
  · rw [← b.length_records, b.records_eq, List.length_append, hheld.length_eq]

/-- how block entities come about: there are none, or they are read from a list -/
inductive Begun : List Call → List Tag → BlockEntities → Prop
  | empty : Begun [] [] empty
  | listed {x z : Int32} {records : List Tag} {b : BlockEntities} {log log' : Array Event}
      (h : ofRecords x z records log = .ok b log') :
      Begun (listedCalls x z records) (strayRecords records) b

theorem Begun.tracks {strays : List Tag} (h : Begun history strays b) :
    Tracks history b ∧ b.strays = strays := by
  cases h with
  | empty => exact ⟨tracks_empty, rfl⟩
  | listed h => exact ⟨tracks_ofRecords h, (holdsListed_ofRecords h).strays_eq⟩

/-- **What is held follows from the calls.**  Each cell holds what was put into it last and not
taken since.  The records are those of the cells that hold one, each once, in the order in which
the cells were first filled, and then the strays. -/
theorem follows_run {strays : List Tag} (h : Begun history strays b) (calls : List Call)
    (log : Array Event) :
    ∃ b' log', (run b calls : Attempt ε BlockEntities) log = .ok b' log' ∧
      Follows (history ++ calls) strays b' := by
  obtain ⟨htracks, rfl⟩ := h.tracks
  obtain ⟨b', log', hrun, htracks', hstrays⟩ := exists_run htracks calls log
  refine ⟨b', log', hrun, ?_⟩
  rw [← hstrays]
  exact htracks'.follows

/-- a chest, a record without coordinates and another chest -/
def chests : List Tag :=
  [.compound [("x", .int 1), ("y", .int 10), ("z", .int 2)], .compound [],
    .compound [("x", .int 3), ("y", .int 11), ("z", .int 4)]]

/-- The first chest is taken, and something else is put there again. -/
def refill : List Call :=
  [.take (.ofParts 0 2593), .insert (.ofParts 0 2594) (.byte 1),
    .insert (.ofParts 0 2593) (.byte 2)]

theorem follows_run_refill :
    ∃ b log b' log', ofRecords 0 0 chests #[] = .ok b log ∧
      (run b refill : Attempt Malformed BlockEntities) log = .ok b' log' ∧
      Follows (listedCalls 0 0 chests ++ refill) (strayRecords chests) b' := by
  have hcompound : ∀ t ∈ chests, t.entries?.isSome := by
    intro t ht
    simp only [chests, List.mem_cons, List.not_mem_nil, or_false] at ht
    rcases ht with rfl | rfl | rfl <;> rfl
  obtain ⟨b, log, h⟩ := exists_ofRecords 0 0 hcompound #[]
  obtain ⟨b', log', hrun, hfollows⟩ := follows_run (.listed h) refill log
  exact ⟨b, log, b', log', h, hrun, hfollows⟩

-- the cell that was emptied is still the first
example : ((chests.foldl (withRecord 0 0) empty).remove (.ofParts 0 2593)
      |>.insert (.ofParts 0 2594) (.byte 1) |>.insert (.ofParts 0 2593) (.byte 2)).records =
    [.byte 2, .compound [("x", .int 3), ("y", .int 11), ("z", .int 4)], .byte 1, .compound []] :=
  rfl

end Flattening.BlockEntities
