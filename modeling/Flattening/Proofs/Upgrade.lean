import Flattening.Proofs.Chunk.ReadBack
import Flattening.Upgrade

/-!
# Upgrading in place, again and again

A call that does nothing or fails leaves the root as it was.  A call that upgrades replaces the
level alone, and the new level has no legacy blocks any more; so it is the last one that does
anything.

* `Chunk.noBlocks_of_write`      no section of a written level carries legacy blocks;
* `Upgrading.call_cases`         everything that a call can do;
* `Upgrading.call_true_iff`      when a call upgrades;
* `Upgrades.settled`             after that there is nothing left to do;
* `Upgrading.calls_settle`       any number of calls.
-/

namespace Flattening

theorem upgradeLevel_eq_ok_iff {level out : Tag} {log log' : Array Event} :
    upgradeLevel level log = .ok out log' ↔
      ∃ c, Chunk.ofLevel level log = .ok c log' ∧ c.write = .ok out := by
  unfold upgradeLevel
  cases hc : Chunk.ofLevel level log with
  | error m l => exact ⟨nofun, fun ⟨_, h, _⟩ => nomatch h⟩
  | ok c l =>
    dsimp only
    cases hw : c.write with
    | error f =>
      refine ⟨nofun, ?_⟩
      rintro ⟨c', h, hw'⟩
      cases h
      rw [hw] at hw'
      cases hw'
    | ok t =>
      constructor
      · intro h
        cases h
        exact ⟨c, rfl, hw⟩
      · rintro ⟨c', h, hw'⟩
        cases h
        rw [hw] at hw'
        cases hw'
        rfl

theorem upgradeChunk_eq_some_iff {root out : Tag} {log log' : Array Event} :
    upgradeChunk root log = .ok (some out) log' ↔
      ∃ level upgraded, root.get? "Level" = some level ∧ hasLegacyBlocks level = true ∧
        upgradeLevel level log = .ok upgraded log' ∧ out = root.insert "Level" upgraded := by
  unfold upgradeChunk
  cases hl : root.get? "Level" with
  | none =>
    constructor
    · intro h
      cases (Attempt.pure_eq_ok.1 h).1
    · rintro ⟨level, upgraded, h, -⟩
      cases h
  | some level =>
    dsimp only
    split
    · rename_i hb
      constructor
      · intro h
        obtain ⟨upgraded, mid, hu, h⟩ := Attempt.bind_eq_ok.1 h
        obtain ⟨hout, rfl⟩ := Attempt.pure_eq_ok.1 h
        exact ⟨level, upgraded, rfl, hb, hu, (Option.some.inj hout).symm⟩
      · rintro ⟨level', upgraded, h, -, hu, rfl⟩
        cases h
        exact Attempt.bind_eq_ok.2 ⟨upgraded, log', hu, rfl⟩
    · rename_i hb
      constructor
      · intro h
        cases (Attempt.pure_eq_ok.1 h).1
      · rintro ⟨level', upgraded, h, hb', -⟩
        cases h
        exact absurd hb' hb

/-! ## written levels -/

/-- The fields that are carried over from a section hold no legacy blocks. -/
theorem Section.get?_blocks_fields {t : Tag} {s : Section} (h : ofTag? t = .ok s) :
    Entries.get? "Blocks" s.fields = none := by
  obtain ⟨m, y, -, -, ⟨hl, rfl⟩ | ⟨l, -, rfl⟩⟩ := ofTag?_eq_ok_iff.1 h
  · have hnone := isSome_layers? hl
    rw [Option.isSome_none, eq_comm, Option.isSome_eq_false_iff, Option.isNone_iff_eq_none] at hnone
    exact hnone
  · show Entries.get? "Blocks" (withoutArrays m) = none
    rw [withoutArrays, Entries.get?_erase_ne (by decide), Entries.get?_erase_ne (by decide),
      Entries.get?_erase_self]

namespace Chunk

theorem get?_blocks_sectionTag {s : Section} {e : Tag} (h : sectionTag s = .ok e)
    (hs : Entries.get? "Blocks" s.fields = none) : e.get? "Blocks" = none := by
  unfold sectionTag at h
  split at h
  · cases h
    exact hs
  · split at h
    · cases h
      rw [FlatSection.get?_toTag_of_ne (by decide) (by decide) (by decide)]
      exact hs
    · cases h

/-- **A written level has no legacy blocks**, also not in sections that were carried over. -/
theorem noBlocks_of_write {level out : Tag} {log log' : Array Event} {c : Chunk}
    (h : ofLevel level log = .ok c log') (hw : c.write = .ok out) :
    hasLegacyBlocks out = false := by
  obtain ⟨c₀, mid, hc₀, rfl, -⟩ := ofLevel_eq_ok_iff.1 h
  obtain ⟨d⟩ := decode_eq_ok_iff.1 hc₀
  obtain ⟨tags, htags, rfl⟩ := write_eq_ok_iff.1 hw
  have hget : (Tag.compound ((c₀.settle mid).1.entriesWith tags)).get? "Sections" =
      some (.list tags) := get?_sections_entriesWith _ tags
  rw [hasLegacyBlocks, hget]
  refine List.any_eq_false.2 fun e he => ?_
  obtain ⟨s, hs, hse⟩ := exists_mem_of_forall₂ htags he
  obtain ⟨y, hy⟩ := mem_kept.1 hs
  -- the fields of a section stay through the rules, so they are those of the tag it was read from
  obtain ⟨s₁, hs₁, hframe⟩ := exists_get_of_frame_eq (c₀.frame_settle mid) hy
  obtain ⟨t, s₀, -, ht, rfl⟩ := d.get_sections_iff.1 hs₁
  have hfields : s₀.decode.fields = s.fields := congrArg SectionFrame.fields hframe
  rw [Section.fields_decode] at hfields
  have hblocks := Section.get?_blocks_fields ht
  rw [hfields] at hblocks
  rw [get?_blocks_sectionTag hse hblocks]
  exact Bool.false_ne_true

/-- A level that is read has a list of sections or none at all. -/
theorem exists_sections_of_ofLevel {level t : Tag} {log log' : Array Event} {c : Chunk}
    (h : ofLevel level log = .ok c log') (ht : level.get? "Sections" = some t) :
    ∃ tags, t = .list tags := by
  obtain ⟨c₀, mid, hc₀, -, -⟩ := ofLevel_eq_ok_iff.1 h
  obtain ⟨d⟩ := decode_eq_ok_iff.1 hc₀
  have htags := d.tags_eq
  rw [list?, ht] at htags
  cases t with
  | list tags => exact ⟨tags, rfl⟩
  | _ => cases htags

end Chunk

/-- Some entry of the list of sections is a compound with legacy blocks. -/
def ListsBlocks (level : Tag) : Prop :=
  ∃ sections m, level.get? "Sections" = some (.list sections) ∧ .compound m ∈ sections ∧
    (Entries.get? "Blocks" m).isSome

theorem hasLegacyBlocks_of_listsBlocks {level : Tag} (h : ListsBlocks level) :
    hasLegacyBlocks level = true := by
  obtain ⟨sections, m, hs, hm, hb⟩ := h
  rw [hasLegacyBlocks, hs]
  exact List.any_eq_true.2 ⟨.compound m, hm, hb⟩

/-- A level that is upgraded has its legacy blocks where they belong. -/
theorem listsBlocks_of_upgradeLevel {level out : Tag} {log log' : Array Event}
    (hb : hasLegacyBlocks level = true) (h : upgradeLevel level log = .ok out log') :
    ListsBlocks level := by
  obtain ⟨c, hc, -⟩ := upgradeLevel_eq_ok_iff.1 h
  unfold hasLegacyBlocks at hb
  cases hs : level.get? "Sections" with
  | none =>
    rw [hs] at hb
    cases hb
  | some t =>
    obtain ⟨tags, rfl⟩ := Chunk.exists_sections_of_ofLevel hc hs
    rw [hs] at hb
    obtain ⟨s, hmem, hsome⟩ := List.any_eq_true.1 hb
    cases s with
    | compound m => exact ⟨tags, m, hs, hmem, hsome⟩
    | _ => cases hsome

/-! ## calls -/

namespace Upgrading

/-- There is nothing to do: no level, or one without legacy blocks. -/
def Settled (u : Upgrading) : Prop :=
  ∀ level, u.root.get? "Level" = some level → hasLegacyBlocks level = false

/-- the level `level` of the root is upgraded to `upgraded`, with `events` afterwards -/
structure Upgrades (u : Upgrading) (level upgraded : Tag) (events : Array Event) : Prop where
  get?_level : u.root.get? "Level" = some level
  lists_blocks : ListsBlocks level
  upgraded_eq : upgradeLevel level u.events = .ok upgraded events

theorem Upgrades.call_eq {u : Upgrading} {level upgraded : Tag} {events : Array Event}
    (h : u.Upgrades level upgraded events) :
    u.call = (.ok true, ⟨u.root.insert "Level" upgraded, events⟩) := by
  have hb := hasLegacyBlocks_of_listsBlocks h.lists_blocks
  have hsome := upgradeChunk_eq_some_iff.2 ⟨level, upgraded, h.get?_level, hb, h.upgraded_eq, rfl⟩
  rw [call, hsome]

/-- **Everything that a call can do**: upgrade the level, nothing, or fail. -/
theorem call_cases (u : Upgrading) :
    (∃ level upgraded events, u.Upgrades level upgraded events ∧
        u.call = (.ok true, ⟨u.root.insert "Level" upgraded, events⟩)) ∨
      (u.Settled ∧ u.call = (.ok false, u)) ∨
      ∃ level e events, u.root.get? "Level" = some level ∧ hasLegacyBlocks level = true ∧
        upgradeLevel level u.events = .error e events ∧ u.call = (.error e, ⟨u.root, events⟩) := by
  cases hl : u.root.get? "Level" with
  | none =>
    refine .inr (.inl ⟨fun level h => ?_, ?_⟩)
    · rw [hl] at h
      cases h
    · rw [call, upgradeChunk_of_no_level hl]
  | some level =>
    cases hb : hasLegacyBlocks level with
    | false =>
      have hnone : upgradeChunk u.root u.events = .ok none u.events := by
        unfold upgradeChunk
        rw [hl]
        dsimp only
        rw [hb]
        rfl
      refine .inr (.inl ⟨fun level' h => ?_, ?_⟩)
      · rw [hl, Option.some.injEq] at h
        rw [← h, hb]
      · rw [call, hnone]
    | true =>
      cases hu : upgradeLevel level u.events with
      | ok upgraded events =>
        have h : u.Upgrades level upgraded events := ⟨hl, listsBlocks_of_upgradeLevel hb hu, hu⟩
        exact .inl ⟨level, upgraded, events, h, h.call_eq⟩
      | error e events =>
        have herror : upgradeChunk u.root u.events = .error e events := by
          unfold upgradeChunk
          rw [hl]
          dsimp only
          rw [hb, if_pos rfl]
          show EStateM.bind (upgradeLevel level) _ u.events = _
          rw [EStateM.bind, hu]
        refine .inr (.inr ⟨level, e, events, rfl, hb, hu, ?_⟩)
        rw [call, herror]

theorem Settled.call_eq {u : Upgrading} (h : u.Settled) : u.call = (.ok false, u) := by
  obtain ⟨level, upgraded, events, hu, -⟩ | ⟨-, hc⟩ | ⟨level, e, events, hl, hb, -, -⟩ :=
    u.call_cases
  · have hb := h level hu.get?_level
    rw [hasLegacyBlocks_of_listsBlocks hu.lists_blocks] at hb
    cases hb
  · exact hc
  · have hb' := h level hl
    rw [hb] at hb'
    cases hb'

/-- A call that does not upgrade leaves the root as it was. -/
theorem root_of_not_true {u : Upgrading} (h : u.call.1 ≠ .ok true) : u.call.2.root = u.root := by
  obtain ⟨level, upgraded, events, -, hc⟩ | ⟨-, hc⟩ | ⟨level, e, events, -, -, -, hc⟩ :=
    u.call_cases
  · rw [hc] at h
    exact absurd rfl h
  · rw [hc]
  · rw [hc]

/-- A call upgrades exactly when there is a level that lists legacy blocks and is accepted. -/
theorem call_true_iff {u : Upgrading} :
    u.call.1 = .ok true ↔ ∃ level upgraded events, u.Upgrades level upgraded events := by
  constructor
  · intro h
    obtain ⟨level, upgraded, events, hu, -⟩ | ⟨-, hc⟩ | ⟨level, e, events, -, -, -, hc⟩ :=
      u.call_cases
    · exact ⟨level, upgraded, events, hu⟩
    · rw [hc] at h
      cases h
    · rw [hc] at h
      cases h
  · rintro ⟨level, upgraded, events, hu⟩
    rw [hu.call_eq]

/-- A root with a level is a compound, and a new level stands where the old one did. -/
theorem get?_insert_level {root level : Tag} (h : root.get? "Level" = some level)
    (upgraded : Tag) : (root.insert "Level" upgraded).get? "Level" = some upgraded := by
  cases root with
  | compound m => exact Tag.get?_insert_self m "Level" upgraded
  | _ => cases h

/-- After an upgrade there is nothing left to do. -/
theorem Upgrades.settled {u : Upgrading} {level upgraded : Tag} {events : Array Event}
    (h : u.Upgrades level upgraded events) : u.call.2.Settled := by
  intro level' hl'
  rw [h.call_eq, get?_insert_level h.get?_level, Option.some.injEq] at hl'
  obtain ⟨c, hc, hw⟩ := upgradeLevel_eq_ok_iff.1 h.upgraded_eq
  rw [← hl']
  exact Chunk.noBlocks_of_write hc hw

theorem after_add (u : Upgrading) (n m : Nat) : u.after (n + m) = (u.after n).after m := by
  induction m with
  | zero => rfl
  | succ m ih =>
    rw [← Nat.add_assoc, after_succ, ih]
    rfl

/-- Where there is nothing to do no call does anything. -/
theorem Settled.after_eq {u : Upgrading} (h : u.Settled) (n : Nat) : u.after n = u := by
  induction n with
  | zero => rfl
  | succ n ih => rw [after_succ, ih, h.call_eq]

/-- **Calls are atomic and settle.**  Whatever came before, a call that fails or does nothing
leaves the root as it was; a call upgrades exactly when the root has a level that lists legacy
blocks and is accepted, and then the level alone is replaced; and all calls after that do
nothing. -/
theorem calls_settle (u : Upgrading) (n : Nat) :
    (u.answer n ≠ .ok true → (u.after (n + 1)).root = (u.after n).root) ∧
      (u.answer n = .ok true ↔
        ∃ level upgraded events, (u.after n).Upgrades level upgraded events) ∧
      (∀ level upgraded events, (u.after n).Upgrades level upgraded events →
        (u.after (n + 1)).root = (u.after n).root.insert "Level" upgraded ∧
        (u.after (n + 1)).root.get? "Level" = some upgraded ∧
        ∀ key, key ≠ "Level" → (u.after (n + 1)).root.get? key = (u.after n).root.get? key) ∧
      (u.answer n = .ok true →
        ∀ m, n < m → u.answer m = .ok false ∧ u.after (m + 1) = u.after m) := by
  refine ⟨root_of_not_true, call_true_iff, fun level upgraded events h => ?_, fun h m hm => ?_⟩
  · rw [after_succ, h.call_eq]
    exact ⟨rfl, get?_insert_level h.get?_level upgraded,
      fun key hkey => Tag.get?_insert_ne hkey _ upgraded⟩
  · obtain ⟨level, upgraded, events, hu⟩ := call_true_iff.1 h
    -- the call after the upgrade finds nothing to do, and so does every later one
    obtain ⟨k, rfl⟩ := Nat.exists_eq_add_of_lt hm
    have hk : n + k + 1 = n + 1 + k := by omega
    have hafter : u.after (n + k + 1) = (u.after n).call.2 := by
      rw [hk, after_add]
      exact hu.settled.after_eq k
    have hcall : (u.after (n + k + 1)).call = (.ok false, u.after (n + k + 1)) := by
      rw [hafter]
      exact hu.settled.call_eq
    show (u.after (n + k + 1)).call.1 = _ ∧ (u.after (n + k + 1)).call.2 = _
    rw [hcall]
    exact ⟨rfl, rfl⟩

/-- a root with one section of the given block ids, not upgraded yet -/
def ofIds (y : Fin 16) (ids : Vector Int8 4096) : Upgrading :=
  ⟨.compound [("Level", Chunk.levelOf [Chunk.sectionOf y ids])], #[]⟩

theorem answer_ofIds (y : Fin 16) (ids : Vector Int8 4096) :
    (ofIds y ids).answer 0 = .ok true := by
  obtain ⟨c, events, hc⟩ := Chunk.exists_ofLevel_sectionOf y ids #[]
  obtain ⟨out, hw⟩ := Chunk.exists_write_of_ofLevel hc
  have hlevel := upgradeLevel_eq_ok_iff.2 ⟨c, hc, hw⟩
  have hlists : ListsBlocks (Chunk.levelOf [Chunk.sectionOf y ids]) :=
    ⟨_, _, rfl, List.mem_singleton_self _, rfl⟩
  exact call_true_iff.2 ⟨_, _, _, ⟨rfl, hlists, hlevel⟩⟩

theorem calls_settle_halved :
    (ofIds 3 Chunk.halvedIds).answer 0 = .ok true ∧ ∀ m, 0 < m →
      (ofIds 3 Chunk.halvedIds).answer m = .ok false ∧
        (ofIds 3 Chunk.halvedIds).after (m + 1) = (ofIds 3 Chunk.halvedIds).after m := by
  have htrue := answer_ofIds 3 Chunk.halvedIds
  exact ⟨htrue, (calls_settle _ 0).2.2.2 htrue⟩

end Upgrading

end Flattening
