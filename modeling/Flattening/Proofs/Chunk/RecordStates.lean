import Flattening.Proofs.Chunk.Conservation
import Flattening.Proofs.Chunk.OneBlock
import Flattening.Proofs.Rule.RecordStates

/-!
# Blocks that follow a block entity

The record of such a block is found by its coordinates in the world, and of several for one cell
the last one counts.  The block has its state from there, and from nothing else.

* `Decoding.block_of_no_record`, `Decoding.block_of_record`   one cell;
* `blocks_follow_last_record`   all such blocks of a chunk.
-/

namespace Flattening.Chunk

open BlockEntities (cellOf? lastRecord?)

namespace Decoding

variable {level : Tag} {log log' : Array Event} {c : Chunk} (d : Decoding level log log' c)

theorem entities_get? (i : ColumnCell) :
    c.entities.get? i = lastRecord? c.x c.z d.records i :=
  (BlockEntities.holdsListed_ofRecords d.entities_eq).get?_eq i

/-- At its turn such a block finds itself as it was decoded, and the record listed for it. -/
theorem exists_record_turn {b : Nat} (hb : b ∈ Rule.recordBlocks) {i : ColumnCell}
    (hi : d.id? i = some b) :
    ∃ (r : Rule) (w : View) (log₁ : Array Event), Rule.ofBlock? b = some r ∧
      r.isRecordDriven = true ∧ w.block i = d.state i ∧
      w.record? i = lastRecord? c.x c.z d.records i ∧
      (c.settle log').1.block i = (r.stepReporting (w, log₁) i).1.block i := by
  obtain ⟨r, hr, hdriven⟩ := Rule.followsRecord_iff.2 hb
  have hdoor : r ≠ .door := by
    rintro rfl
    cases hdriven
  obtain ⟨w, log₁, -, hwi, hrecord, -, hstep⟩ := d.exists_turn hr hdoor hi
  exact ⟨r, w, log₁, hr, hdriven, hwi, hrecord.trans (d.entities_get? i), hstep⟩

theorem block_of_no_record {b : Nat} (hb : b ∈ Rule.recordBlocks) {i : ColumnCell}
    (hi : d.id? i = some b) (h : lastRecord? c.x c.z d.records i = none) :
    (c.settle log').1.block i = d.state i := by
  obtain ⟨r, w, log₁, -, hdriven, hwi, hrecord, hstep⟩ := d.exists_record_turn hb hi
  rw [hstep, Rule.turn_of_no_record hdriven (hrecord.trans h), hwi]

theorem block_of_record {b : Nat} (hb : b ∈ Rule.recordBlocks) {i : ColumnCell}
    (hi : d.id? i = some b) {t : Tag} (h : lastRecord? c.x c.z d.records i = some t) :
    (c.settle log').1.block i = afterRecord b (d.state i) t := by
  obtain ⟨r, w, log₁, hr, hdriven, hwi, hrecord, hstep⟩ := d.exists_record_turn hb hi
  rw [hstep, Rule.turn_of_record hdriven (hrecord.trans h), hwi, afterRecord_of_rule hr]

end Decoding

/-- **Blocks that follow a block entity follow the last one listed for their cell**, and without
one they stay as they are listed.  Nothing counts but the listed state and the record, whatever the
record holds. -/
theorem blocks_follow_last_record {level : Tag} {log log' : Array Event} {c : Chunk}
    (h : ofLevel level log = .ok c log') :
    ∃ records tags, coordinate? level "xPos" = .ok c.x ∧ coordinate? level "zPos" = .ok c.z ∧
      list? level "TileEntities" = .ok records ∧ list? level "Sections" = .ok tags ∧
      ∀ b ∈ [25, 26, 140, 144, 176, 177], ∀ i s, listedId? tags i = some b →
        listedState? tags i = some s →
        ((∀ t ∈ records, cellOf? c.x c.z t ≠ some i) → c.block i = s) ∧
        ∀ r, lastRecord? c.x c.z records i = some r →
          c.block i = afterRecord b s r ∧ FollowsRecord s r (c.block i) b := by
  obtain ⟨c₀, mid, hc₀, rfl, -⟩ := ofLevel_eq_ok_iff.1 h
  obtain ⟨d⟩ := decode_eq_ok_iff.1 hc₀
  have hframe := c₀.frame_settle mid
  have hx : (c₀.settle mid).1.x = c₀.x := congrArg ChunkFrame.x hframe
  have hz : (c₀.settle mid).1.z = c₀.z := congrArg ChunkFrame.z hframe
  rw [hx, hz]
  refine ⟨d.records, d.tags, d.x_eq, d.z_eq, d.records_eq, d.tags_eq, ?_⟩
  intro b hb i s hi hs
  rw [← d.id?_eq] at hi
  obtain rfl := d.state_of_listed hs
  constructor
  · intro hno
    refine d.block_of_no_record hb hi ?_
    rw [← Option.not_isSome_iff_eq_none, BlockEntities.lastRecord?_isSome_iff,
      BlockEntities.mem_placedCells]
    rintro ⟨t, ht, hti⟩
    exact hno t ht hti
  · intro r hr
    have hblock := d.block_of_record hb hi hr
    refine ⟨hblock, ?_⟩
    obtain ⟨id, rfl, hid⟩ := d.sight_state_of_id? hi
    rw [hblock, hid]
    exact followsRecord hb r

/-- ids of a section full of note blocks -/
def noteBlockIds : Vector Int8 4096 := Vector.ofFn fun _ => 25

/-- a record of a note beyond 32 bits and beyond the highest note -/
def shrillRecord : Tag :=
  .compound [("note", .long 4294967326), ("powered", .byte 2), ("x", .int 0), ("y", .int 48),
    ("z", .int 0)]

/-- There are two records for one note block and none for the others: the later record counts, and
its note is cut and then lowered to the highest one. -/
theorem blocks_follow_last_record_note :
    ∃ c log',
      ofLevel (levelWith [sectionOf 3 noteBlockIds] [recordAt 0 48 0, shrillRecord]) #[] =
        .ok c log' ∧
      (c.block (.of 3 0)).property? "note" = some "24" ∧
      (c.block (.of 3 0)).property? "powered" = some "true" ∧
      c.block (.of 3 1) = Legacy.state ⟨25, 0⟩ := by
  have hcompound : ∀ t ∈ [recordAt 0 48 0, shrillRecord], t.entries?.isSome := by
    intro t ht
    rcases List.mem_pair.1 ht with rfl | rfl <;> rfl
  obtain ⟨c, log', h⟩ :=
    exists_ofLevel_levelWith (ofTag?_of_mem_sectionOf 3 noteBlockIds) hcompound #[]
  obtain ⟨records, tags, hx, hz, hrecords, htags, hall⟩ := blocks_follow_last_record h
  obtain rfl : [recordAt 0 48 0, shrillRecord] = records := Except.ok.inj hrecords
  obtain rfl : [sectionOf 3 noteBlockIds] = tags := Except.ok.inj htags
  have hcx : (0 : Int32) = c.x := Except.ok.inj hx
  have hcz : (0 : Int32) = c.z := Except.ok.inj hz
  rw [← hcx, ← hcz] at hall
  have hlast : LastListed [sectionOf 3 noteBlockIds] 3 (sectionOf 3 noteBlockIds) :=
    ⟨[], [], rfl, y?_sectionOf 3 noteBlockIds, fun u hu => absurd hu List.not_mem_nil⟩
  have hlisted : ∀ cell : Cell, listedId? [sectionOf 3 noteBlockIds] (.of 3 cell) = some 25 ∧
      listedState? [sectionOf 3 noteBlockIds] (.of 3 cell) = some (Legacy.state ⟨25, 0⟩) :=
    fun cell => listed_sectionOf hlast (by rw [noteBlockIds, Table.get_ofFn]; rfl)
  obtain ⟨hi, hs⟩ := hlisted 0
  obtain ⟨hi', hs'⟩ := hlisted 1
  have hrecord : lastRecord? 0 0 [recordAt 0 48 0, shrillRecord] (.of 3 0) = some shrillRecord :=
    rfl
  have hno : ∀ t ∈ [recordAt 0 48 0, shrillRecord], cellOf? 0 0 t ≠ some (.of 3 1) := by
    intro t ht
    rcases List.mem_pair.1 ht with rfl | rfl
    · decide
    · decide
  obtain ⟨-, hfollows⟩ := (hall 25 (by decide) _ _ hi hs).2 _ hrecord
  cases hfollows with
  | noteBlock hnote =>
    exact ⟨c, log', h, hnote.note_eq, hnote.powered_eq, (hall 25 (by decide) _ _ hi' hs').1 hno⟩

end Flattening.Chunk
