import Flattening.Proofs.Chunk.Reading
import Flattening.Proofs.Rule.Run
import Flattening.Proofs.Section.Growth

/-!
# What the rules leave of a chunk, and how far its palettes grow

A run changes states and takes block entities.  The frame of the chunk stays, so what is
written besides the states is settled when the level is decoded.

* `frame_settle`       the frame stays, and so does what is left for later;
* `EveryDecoded.setBlock`   what a written state does to a property of all decoded cells;
* `bounded_settle`     every palette starts with air and stays below `2 ^ 31`;
* `Decoding.get_sections`, `Decoding.y_of_get`   the sections of a decoded level;
* `Decoding.countP_settle`   the events of reading and running, counted by kind.
-/

namespace Flattening

/-- what the rules leave as it is in a chunk -/
structure ChunkFrame where
  x : Int32
  z : Int32
  sides : Sides
  sections : Fin 16 → Option SectionFrame
  fromAlpha : Bool
  fields : Entries String Tag

namespace Chunk

/-! ## the frame -/

def frame (c : Chunk) : ChunkFrame :=
  ⟨c.x, c.z, c.sides, fun y => (c.sections.get y).map Section.frame, c.fromAlpha, c.fields⟩

theorem get_setBlock (c : Chunk) (i : ColumnCell) (b : BlockState) (y : Fin 16) :
    (c.setBlock i b).sections.get y =
      (c.sections.get y).map fun s => if y = i.sectionY then s.setBlock i.cell b else s := by
  show (Table.modify c.sections i.sectionY _).get y = _
  by_cases hy : y = i.sectionY
  · rw [hy, Table.get_modify_self]
    simp
  · rw [Table.get_modify_ne _ hy]
    simp [hy]

theorem frame_setBlock (c : Chunk) (i : ColumnCell) (b : BlockState) :
    (c.setBlock i b).frame = c.frame := by
  have h : (fun y => ((c.setBlock i b).sections.get y).map Section.frame) =
      fun y => (c.sections.get y).map Section.frame := by
    funext y
    rw [get_setBlock, Option.map_map]
    congr 1
    funext s
    show Section.frame (if y = i.sectionY then s.setBlock i.cell b else s) = s.frame
    split
    · exact s.frame_setBlock i.cell b
    · rfl
  unfold frame
  rw [h]
  rfl

theorem map_frame_of_frame_eq {c c' : Chunk} (h : c'.frame = c.frame) (y : Fin 16) :
    (c'.sections.get y).map Section.frame = (c.sections.get y).map Section.frame :=
  congrFun (congrArg ChunkFrame.sections h) y

theorem exists_get_of_frame_eq {c c' : Chunk} (h : c'.frame = c.frame) {y : Fin 16} {s' : Section}
    (hs : c'.sections.get y = some s') :
    ∃ s, c.sections.get y = some s ∧ s.frame = s'.frame := by
  have hy := map_frame_of_frame_eq h y
  rw [hs, Option.map_some, eq_comm, Option.map_eq_some_iff] at hy
  exact hy

theorem frame_consume (c : Chunk) (i : ColumnCell) : (c.consume i).frame = c.frame := rfl

theorem get_clearPending (c : Chunk) (y : Fin 16) :
    c.clearPending.sections.get y = (c.sections.get y).map Section.clearPending := by
  show (c.sections.map (Option.map Section.clearPending))[y.val] = _
  rw [Vector.getElem_map]
  rfl

theorem frame_clearPending (c : Chunk) : c.clearPending.frame = c.frame := by
  have h : (fun y => (c.clearPending.sections.get y).map Section.frame) =
      fun y => (c.sections.get y).map Section.frame := by
    funext y
    rw [get_clearPending, Option.map_map]
    congr 1
    funext s
    exact s.frame_clearPending
  unfold frame
  rw [h]
  rfl

theorem foldl_setBlock {P : Nat → Chunk → Prop} {Q : BlockState → Prop}
    (h : ∀ n c i b, Q b → P n c → P (n + 1) (setBlock c i b))
    {l : List (ColumnCell × BlockState)} (hl : ∀ w ∈ l, Q w.2) {n : Nat} {c : Chunk}
    (hc : P n c) : P (n + l.length) (l.foldl (fun c w => setBlock c w.1 w.2) c) := by
  induction l generalizing n c with
  | nil => exact hc
  | cons w l ih =>
    have hn : n + (l.length + 1) = n + 1 + l.length := by omega
    rw [List.length_cons, hn]
    exact ih (fun v hv => hl v (List.mem_cons_of_mem w hv))
      (h n c w.1 w.2 (hl w List.mem_cons_self) hc)

/-- What both ways to change a chunk keep, every run keeps; of the states that are written it is
enough to know what holds of every edit. -/
theorem runInvariant_of_writes {P : Nat → Chunk → Prop} {Q : BlockState → Prop}
    (mono : ∀ m n c, m ≤ n → P m c → P n c)
    (writes : ∀ n (c : Chunk) (r : Rule) i e, r.plan (CellStore.view c) i = .ok e → P n c →
      ∀ w ∈ e.writes, Q w.2)
    (set : ∀ n c i b, Q b → P n c → P (n + 1) (setBlock c i b))
    (take : ∀ n c i, P n c → P n (consume c i)) : RunInvariant P where
  mono := mono
  perform := by
    intro n c r i e he hc
    have h : P n (if e.consumes then consume c i else c) := by
      split
      · exact take n c i hc
      · exact hc
    exact mono _ _ _ (Nat.add_le_add_left (Rule.length_writes_of_plan he) n)
      (foldl_setBlock set (writes n c r i e he hc) h)

theorem runInvariant_of_steps {P : Nat → Chunk → Prop} (mono : ∀ m n c, m ≤ n → P m c → P n c)
    (set : ∀ n c i b, P n c → P (n + 1) (setBlock c i b))
    (take : ∀ n c i, P n c → P n (consume c i)) : RunInvariant P :=
  runInvariant_of_writes (Q := fun _ => True) mono (fun _ _ _ _ _ _ _ _ _ => trivial)
    (fun n c i b _ h => set n c i b h) take

theorem runInvariant_frame (c : Chunk) :
    RunInvariant fun (_ : Nat) (d : Chunk) => d.frame = c.frame :=
  runInvariant_of_steps (fun _ _ _ _ h => h)
    (fun _ d i b h => (d.frame_setBlock i b).trans h)
    (fun _ d i h => (d.frame_consume i).trans h)

theorem frame_settle (c : Chunk) (log : Array Event) : (c.settle log).1.frame = c.frame :=
  c.runInvariant_frame.runGroups (n := 0) c.groups log c.frame_clearPending

theorem fields_settle (c : Chunk) (log : Array Event) :
    (c.settle log).1.fields = c.fields := congrArg ChunkFrame.fields (c.frame_settle log)

/-! ## palettes -/

/-- All decoded cells of the chunk have the property. -/
def EveryDecoded (P : DecodedCells → Prop) (c : Chunk) : Prop :=
  ∀ y s d, c.sections.get y = some s → s.decoded? = some d → P d

theorem EveryDecoded.setBlock {P Q : DecodedCells → Prop} {c : Chunk} (h : c.EveryDecoded P)
    {i : ColumnCell} {b : BlockState} (set : ∀ d, P d → Q (d.setBlock i.cell b))
    (keep : ∀ d, P d → Q d) : (c.setBlock i b).EveryDecoded Q := by
  intro y s d hs hd
  rw [get_setBlock] at hs
  obtain ⟨t, ht, rfl⟩ := Option.map_eq_some_iff.1 hs
  split at hd
  · rw [Section.decoded?_setBlock] at hd
    obtain ⟨e, he, rfl⟩ := Option.map_eq_some_iff.1 hd
    exact set e (h y t e ht he)
  · exact keep d (h y t d ht hd)

theorem EveryDecoded.clearPending {P : DecodedCells → Prop} {c : Chunk} (h : c.EveryDecoded P)
    (clear : ∀ d, P d → P { d with pending := [] }) : c.clearPending.EveryDecoded P := by
  intro y s d hs hd
  rw [get_clearPending] at hs
  obtain ⟨t, ht, rfl⟩ := Option.map_eq_some_iff.1 hs
  rw [Section.decoded?_clearPending] at hd
  obtain ⟨e, he, rfl⟩ := Option.map_eq_some_iff.1 hd
  exact clear e (h y t e ht he)

/-- Every palette starts with air and has at most `n` states. -/
def Bounded (n : Nat) (c : Chunk) : Prop := c.EveryDecoded (DecodedCells.Bounded n)

theorem Bounded.setBlock {n : Nat} {c : Chunk} (h : c.Bounded n) (i : ColumnCell) (b : BlockState) :
    (c.setBlock i b).Bounded (n + 1) :=
  EveryDecoded.setBlock h (fun _ hd => hd.setBlock i.cell b) (fun _ hd => hd.mono (Nat.le_succ n))

theorem Bounded.clearPending {n : Nat} {c : Chunk} (h : c.Bounded n) :
    c.clearPending.Bounded n :=
  EveryDecoded.clearPending h fun _ hd => ⟨hd.air_first, hd.size_le⟩

theorem runInvariant_bounded : RunInvariant Bounded :=
  runInvariant_of_steps
    (fun _ _ _ hn h y s d hs hd => (h y s d hs hd).mono hn)
    (fun _ _ i b h => h.setBlock i b)
    (fun _ _ _ h => h)

/-! ## the sections that are there -/

theorem present_eq (v : Vector (Option Section) 16) :
    v.toList.filterMap id = (List.finRange 16).filterMap v.get := by
  have h : v.toList = (List.finRange 16).map v.get := by
    apply List.ext_getElem
    · simp
    · intro i h1 h2
      simp [Vector.get]
  rw [h, List.filterMap_map]
  rfl

theorem mem_present {v : Vector (Option Section) 16} {s : Section} :
    s ∈ v.toList.filterMap id ↔ ∃ y, v.get y = some s := by
  rw [present_eq, List.mem_filterMap]
  simp

theorem kept_eq (c : Chunk) : c.kept = (List.finRange 16).filterMap c.sections.get :=
  present_eq c.sections

theorem mem_kept {c : Chunk} {s : Section} : s ∈ c.kept ↔ ∃ y, c.sections.get y = some s :=
  mem_present

/-- What is left for later does not depend on the states. -/
theorem upgradeData_of_frame_eq {c c' : Chunk} (h : c'.frame = c.frame) :
    c'.upgradeData = c.upgradeData := by
  have hlist : ∀ c : Chunk, (c.kept.map fun s =>
      (UInt8.ofNat s.y.val, s.deferred.map fun i => UInt16.ofNat i.val)) =
      (List.finRange 16).filterMap fun y => ((c.sections.get y).map Section.frame).map fun f =>
        (UInt8.ofNat f.y.val, f.deferred.map fun i => UInt16.ofNat i.val) := by
    intro c
    rw [kept_eq, List.map_filterMap]
    simp only [Option.map_map]
    rfl
  have hsides : c'.sides = c.sides := congrArg ChunkFrame.sides h
  rw [upgradeData, upgradeData, hlist, hlist, hsides]
  simp only [map_frame_of_frame_eq h]

theorem length_kept_le (c : Chunk) : c.kept.length ≤ 16 := by
  have h := List.length_filterMap_le c.sections.get (List.finRange 16)
  rwa [← kept_eq, List.length_finRange] at h

/-! ## a decoded level -/

namespace Decoding

variable {level : Tag} {log log' : Array Event} {c : Chunk}

theorem get_sections (d : Decoding level log log' c) (y : Fin 16) :
    c.sections.get y = (d.placed.get y).map Section.decode := by
  rw [d.sections_eq]
  show (d.placed.map (Option.map Section.decode))[y.val] = _
  rw [Vector.getElem_map]
  rfl

theorem get_sections_iff (d : Decoding level log log' c) {y : Fin 16} {s : Section} :
    c.sections.get y = some s ↔
      ∃ t s₀, LastListed d.tags y t ∧ Section.ofTag? t = .ok s₀ ∧ s₀.decode = s := by
  rw [d.get_sections, Option.map_eq_some_iff]
  constructor
  · rintro ⟨s₀, hs, rfl⟩
    obtain ⟨t, ht, ht'⟩ := (get_placed d.placed_eq).1 hs
    exact ⟨t, s₀, ht, ht', rfl⟩
  · rintro ⟨t, s₀, ht, ht', rfl⟩
    exact ⟨s₀, (get_placed d.placed_eq).2 ⟨t, ht, ht'⟩, rfl⟩

theorem y_of_get (d : Decoding level log log' c) {y : Fin 16} {s : Section}
    (h : c.sections.get y = some s) : s.y = y := by
  obtain ⟨t, s₀, ⟨before, after, -, hy, -⟩, ht, rfl⟩ := d.get_sections_iff.1 h
  rw [Section.y?_of_ofTag? ht, Except.ok.injEq] at hy
  rw [Section.y_decode, hy]

/-- Block entities, sections and rules report in turn, and the rules only what they missed. -/
theorem countP_settle (d : Decoding level log log' c) (p : Event → Bool)
    (hp : ∀ r i u, p (.unresolved r i u) = false) {first second : Array Event}
    (hfirst : d.between = log ++ first) (hsecond : log' = d.between ++ second) :
    ∃ events, (c.settle log').2 = log ++ events ∧
      events.countP p = first.countP p + second.countP p := by
  obtain ⟨third, hthird, hrun⟩ := runGroups_events c.groups c.clearPending log'
  have hnone : third.countP p = 0 := by
    refine Array.countP_eq_zero.2 fun e he => ?_
    obtain ⟨r, i, u, rfl⟩ := hrun e he
    exact Bool.eq_false_iff.1 (hp r i u)
  refine ⟨first ++ second ++ third, ?_, ?_⟩
  · rw [settle, hthird, hsecond, hfirst, Array.append_assoc, Array.append_assoc,
      Array.append_assoc]
  · rw [Array.countP_append, Array.countP_append, hnone, Nat.add_zero]

/-- The cells of a section that was just decoded are those of its layers. -/
theorem exists_layers (d : Decoding level log log' c) {y : Fin 16} {s : Section}
    {cells : DecodedCells} (h : c.sections.get y = some s) (hd : s.decoded? = some cells) :
    ∃ l, cells = .decode l := by
  obtain ⟨t, s₀, -, ht, rfl⟩ := d.get_sections_iff.1 h
  obtain ⟨m, y', -, -, ⟨-, rfl⟩ | ⟨l, -, rfl⟩⟩ := Section.ofTag?_eq_ok_iff.1 ht
  · cases hd
  · exact ⟨l, (Option.some.inj hd).symm⟩

theorem bounded (d : Decoding level log log' c) : c.Bounded 4097 := by
  intro y s cells hs hd
  obtain ⟨l, rfl⟩ := d.exists_layers hs hd
  exact DecodedCells.bounded_decode l

theorem waiting_le (d : Decoding level log log' c) : waiting c.groups ≤ 16 * (18 * 4096) := by
  have hsec : ∀ s ∈ c.kept, ((s.pending.map fun p => (⟨s.y, p.1, p.2⟩ : Group)).map
      fun g => g.cells.length).sum ≤ 18 * 4096 := by
    intro s hs
    obtain ⟨y, hy⟩ := mem_kept.1 hs
    rw [List.map_map]
    show (s.pending.map fun p => p.2.length).sum ≤ _
    cases hd : s.decoded? with
    | none =>
      rw [Section.pending, hd]
      exact Nat.zero_le _
    | some cells =>
      obtain ⟨l, rfl⟩ := d.exists_layers hy hd
      rw [Section.pending, hd]
      dsimp only
      rw [DecodedCells.waiting_decode]
      exact l.sum_pending_le
  rw [waiting, groups, List.map_flatMap, List.flatMap_def, List.sum_flatten, List.map_map]
  exact Nat.le_trans (sum_map_le hsec) (Nat.mul_le_mul_right _ c.length_kept_le)

/-- **No palette of a level outgrows a list**, whatever the rules write. -/
theorem bounded_settle (d : Decoding level log log' c) (log₁ : Array Event) :
    (c.settle log₁).1.Bounded (2 ^ 31 - 1) := by
  have h := runInvariant_bounded.runGroups c.groups log₁ d.bounded.clearPending
  have hw := d.waiting_le
  exact runInvariant_bounded.mono _ _ _ (by omega) h

end Decoding

end Chunk

end Flattening
