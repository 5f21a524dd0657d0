import Flattening.CommandLine
import Flattening.Proofs.Chunk.ReadBack
import Flattening.Proofs.Chunk.Readable
import Flattening.Proofs.Tag.RoundTrip
import Flattening.Proofs.Upgrade

/-!
# An upgraded document can be written back

A document is sound when its name and its root could have come out of a file.  Every document
that is read is sound, upgrading keeps it sound, and a sound document is written and read back.

* `exists_read_iff_sound`   sound documents are those that can be read;
* `Sound.upgrade`           upgrading keeps a document sound;
* `upgraded_written_back`   what was upgraded is written, and read back from what was written;
* `upgraded_packed_back`    and so it is through anything that packs bytes and unpacks them;
* `upgradeBytes_eq_ok`      a run that has upgraded a chunk has the bytes to write.
-/

namespace Flattening

namespace Document

/-- The name is short enough, and the root is a compound that reading can give. -/
structure Sound (d : Document) : Prop where
  name_le : d.name.utf8ByteSize ≤ 65535
  isCompound : d.root.kind = .compound
  readable : Tag.Readable (Tag.maxNesting + 1) d.root

variable {s : List UInt8} {d : Document}

/-! ## what is read is sound -/

theorem read_eq_ok_iff :
    read s = .ok d ↔ d.root.kind = .compound ∧ ∃ r, Tag.read s = .ok ((d.name, d.root), r) := by
  unfold read
  cases hs : Tag.read s with
  | error e => exact ⟨nofun, fun ⟨_, _, h⟩ => nomatch h⟩
  | ok p =>
    obtain ⟨⟨name, root⟩, r⟩ := p
    obtain ⟨n, t⟩ := d
    constructor
    · intro h
      cases root with
      | compound m =>
        cases h
        exact ⟨rfl, r, rfl⟩
      | _ => cases h
    · rintro ⟨hk, r', h⟩
      cases h
      cases t with
      | compound m => rfl
      | _ => cases hk

theorem sound_of_read (h : read s = .ok d) : d.Sound := by
  obtain ⟨hk, r, hr⟩ := read_eq_ok_iff.1 h
  obtain ⟨-, hn, hread⟩ := Tag.read_output hr
  exact ⟨hn, hk, hread⟩

/-- A document in a gzip member is read from some plain bytes. -/
theorem exists_read_of_readGzip (h : readGzip s = .ok d) : ∃ bytes, read bytes = .ok d := by
  have hsupply : ∀ firm loose, readSupply firm loose = .ok d → ∃ bytes, read bytes = .ok d := by
    intro firm loose h
    unfold readSupply at h
    split at h
    · exact ⟨_, h⟩
    · exact ⟨firm, h⟩
  unfold readGzip at h
  dsimp only at h
  split at h
  · split at h <;> cases h
  · exact hsupply _ _ h

theorem sound_of_readGzip (h : readGzip s = .ok d) : d.Sound := by
  obtain ⟨bytes, hbytes⟩ := exists_read_of_readGzip h
  exact sound_of_read hbytes

/-! ## what is sound is written -/

/-- **A sound document is written and read back**, in whatever order its entries are written. -/
theorem Sound.exists_write (h : d.Sound) {w : Tag} (hw : Tag.Reorders d.root w) :
    ∃ b, write ⟨d.name, w⟩ = .ok b ∧ read b.toList = .ok d := by
  have hne : d.root ≠ .endMark := by
    intro he
    have hk := h.isCompound
    rw [he] at hk
    cases hk
  obtain ⟨hb, hread⟩ := h.readable.write_and_read h.name_le (fun he => absurd he hne) hw
  have hback := hread []
  rw [List.append_nil] at hback
  refine ⟨(Tag.namedBytes d.name w).toArray, ?_, read_eq_ok_iff.2 ⟨h.isCompound, [], hback⟩⟩
  rw [write, hb]

/-- Sound documents are those that can be read. -/
theorem exists_read_iff_sound : (∃ s, read s = .ok d) ↔ d.Sound := by
  constructor
  · rintro ⟨s, hs⟩
    exact sound_of_read hs
  · intro h
    obtain ⟨b, -, hb⟩ := h.exists_write (.refl d.root)
    exact ⟨b.toList, hb⟩

theorem writeGzip_of_write {b : Array UInt8} (h : d.write = .ok b) :
    d.writeGzip = .ok (Gzip.pack b) := by
  rw [writeGzip, h]

end Document

/-! ## upgrading -/

namespace Document

variable {d : Document} {root : Tag} {log log' : Array Event}

/-- **Upgrading keeps a document sound.** -/
theorem Sound.upgrade (h : d.Sound) (hu : upgradeChunk d.root log = .ok (some root) log') :
    Sound ⟨d.name, root⟩ := by
  obtain ⟨level, upgraded, hl, -, hlevel, rfl⟩ := upgradeChunk_eq_some_iff.1 hu
  obtain ⟨c, hc, hw⟩ := upgradeLevel_eq_ok_iff.1 hlevel
  obtain ⟨c₀, mid, hc₀, rfl, -⟩ := Chunk.ofLevel_eq_ok_iff.1 hc
  obtain ⟨decoding⟩ := Chunk.decode_eq_ok_iff.1 hc₀
  -- the root takes one of the levels that are allowed, and the new level fits into the rest
  have hreadable := (h.readable.of_get? hl).2
  obtain ⟨hkind, hupgraded⟩ := decoding.readable_write (n := Tag.maxNesting - 7) hreadable mid hw
  obtain ⟨name, t⟩ := d
  cases t with
  | compound m =>
    refine ⟨h.name_le, rfl, h.readable.insert hupgraded (fun he => ?_) (by decide)⟩
    rw [he] at hkind
    cases hkind
  | _ => cases h.isCompound

/-- **An upgraded document is written back**, in whatever order its entries are written; and what
is written is read as the upgraded document. -/
theorem upgraded_written_back {s : List UInt8} (hd : read s = .ok d)
    (hu : upgradeChunk d.root log = .ok (some root) log') {w : Tag} (hw : Tag.Reorders root w) :
    ∃ b, write ⟨d.name, w⟩ = .ok b ∧ read b.toList = .ok ⟨d.name, root⟩ :=
  ((sound_of_read hd).upgrade hu).exists_write hw

/-- a chunk file's root with one section of note blocks and pumpkins -/
def halvedRoot : Tag :=
  .compound [("Level", Chunk.levelOf [Chunk.sectionOf 3 Chunk.halvedIds])]

theorem readable_halvedRoot : Tag.Readable (Tag.maxNesting + 1) halvedRoot := by
  have hsection : Tag.Readable 510 (Chunk.sectionOf 3 Chunk.halvedIds) := by
    have hblocks : Tag.Readable 509 (.byteArray Chunk.halvedIds.toArray) := by
      refine Tag.readable_leaf rfl fun hlong => ?_
      rw [Tag.Refused, Vector.size_toArray] at hlong
      exact absurd hlong (by decide)
    refine Tag.readable_compound_iff.2 ⟨?_, ?_⟩
    · exact Entries.ascending_cons.2 ⟨by decide, List.pairwise_singleton _ _⟩
    · simp only [List.forall_mem_cons]
      exact ⟨⟨by decide, by simp, hblocks⟩,
        ⟨by decide, by simp, Tag.readable_leaf rfl not_false⟩, by simp⟩
  have hsections : Tag.Readable 511 (.list [Chunk.sectionOf 3 Chunk.halvedIds]) := by
    refine Tag.readable_list_iff.2 ⟨by decide, fun u hu v hv => ?_, fun u hu => ?_⟩
    · rw [List.mem_singleton.1 hu, List.mem_singleton.1 hv]
    · rw [List.mem_singleton.1 hu]
      exact ⟨by simp [Chunk.sectionOf], hsection⟩
  have hempty : ∀ n, Tag.Readable (n + 1) (.compound []) := fun n =>
    Tag.readable_compound_iff.2 ⟨Entries.ascending_nil, by simp⟩
  have hlevel : Tag.Readable 512 (Chunk.levelOf [Chunk.sectionOf 3 Chunk.halvedIds]) :=
    (hempty 511).insert hsections (by simp) (by decide)
  exact (hempty 512).insert hlevel (by simp [Chunk.levelOf]) (by decide)

theorem upgraded_written_back_halved :
    ∃ s root log', read s = .ok ⟨"", halvedRoot⟩ ∧
      upgradeChunk halvedRoot #[] = .ok (some root) log' ∧
      ∃ b, write ⟨"", root⟩ = .ok b ∧ read b.toList = .ok ⟨"", root⟩ := by
  obtain ⟨s, hs⟩ := exists_read_iff_sound.2
    (show Sound ⟨"", halvedRoot⟩ from ⟨by decide, rfl, readable_halvedRoot⟩)
  obtain ⟨c, mid, hc⟩ :=
    Chunk.exists_decode_levelOf (Chunk.ofTag?_of_mem_sectionOf 3 Chunk.halvedIds) #[]
  obtain ⟨d⟩ := Chunk.decode_eq_ok_iff.1 hc
  obtain ⟨tags, hwrite, -⟩ := (d.writable_settle mid).exists_write
  have hget : halvedRoot.get? "Level" =
      some (Chunk.levelOf [Chunk.sectionOf 3 Chunk.halvedIds]) := rfl
  have hlevel := upgradeLevel_eq_ok_iff.2
    ⟨_, Chunk.ofLevel_eq_ok_iff.2 ⟨c, mid, hc, rfl, rfl⟩, hwrite⟩
  have hu := upgradeChunk_eq_some_iff.2 ⟨_, _, hget, rfl, hlevel, rfl⟩
  exact ⟨s, _, _, hs, hu, upgraded_written_back hs hu (.refl _)⟩

/-! ## packed documents -/

section
variable (pack : Array UInt8 → List UInt8) (unpack : List UInt8 → Option (List UInt8))

/-- the document in packed bytes, if they can be unpacked and read -/
def readPacked (s : List UInt8) : Option Document :=
  (unpack s).bind fun bytes => (read bytes).toOption

def writePacked (d : Document) : Except DocumentError (List UInt8) := d.write.map pack

variable {pack unpack}

theorem exists_read_of_readPacked {s : List UInt8} (h : readPacked unpack s = some d) :
    ∃ bytes, read bytes = .ok d := by
  obtain ⟨bytes, -, hbytes⟩ := Option.bind_eq_some_iff.1 h
  cases hread : read bytes with
  | error e =>
    rw [hread] at hbytes
    cases hbytes
  | ok d' =>
    rw [hread] at hbytes
    cases hbytes
    exact ⟨bytes, hread⟩

/-- **Whatever packs the bytes**, as long as unpacking gives them back: a document that was read
and upgraded is written, and read as the upgraded document. -/
theorem upgraded_packed_back (hpack : ∀ b, unpack (pack b) = some b.toList) {s : List UInt8}
    (hd : readPacked unpack s = some d) (hu : upgradeChunk d.root log = .ok (some root) log')
    {w : Tag} (hw : Tag.Reorders root w) :
    ∃ p, writePacked pack ⟨d.name, w⟩ = .ok p ∧ readPacked unpack p = some ⟨d.name, root⟩ := by
  obtain ⟨bytes, hread⟩ := exists_read_of_readPacked hd
  obtain ⟨b, hb, hback⟩ := ((sound_of_read hread).upgrade hu).exists_write hw
  refine ⟨pack b, ?_, ?_⟩
  · rw [writePacked, hb]
    rfl
  · rw [readPacked, hpack, Option.bind_some, hback]
    rfl

end

end Document

/-! ## a run -/

/-- **A run that has upgraded a chunk has the bytes to write**: no error can come between. -/
theorem CommandLine.upgradeBytes_eq_ok {bytes : List UInt8} {d : Document} {root : Tag}
    {log log' : Array Event} (hd : Document.readGzip bytes = .ok d)
    (hu : upgradeChunk d.root log = .ok (some root) log') :
    ∃ out, upgradeBytes bytes log = .ok (some out) log' := by
  obtain ⟨b, hb, -⟩ := ((Document.sound_of_readGzip hd).upgrade hu).exists_write (.refl root)
  refine ⟨Gzip.pack b, ?_⟩
  unfold upgradeBytes
  rw [hd]
  dsimp only
  rw [hu]
  dsimp only
  rw [Document.writeGzip_of_write hb]

end Flattening
