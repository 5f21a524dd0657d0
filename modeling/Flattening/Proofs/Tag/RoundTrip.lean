import Flattening.Proofs.Tag.ReadOutput

/-!
# What is written can be read again

Which tags can be written, and which of those come back: exactly those that reading could have
given in the first place.

* `write_refused_iff`   a tag is refused for its name or for one of its nodes;
* `read_of_write`       bytes of a tag that fits are read as the sorted tag;
* `Readable.write_and_read`   a tag that reading can give is written and read back;
* `written_read_iff`    written in any order, a tag comes back exactly when it fits.
-/

namespace Flattening.Tag

variable {n : String} {t w : Tag}

theorem write_refused_iff :
    (∃ e, write n t = .error e) ↔
      (t ≠ .endMark ∧ 65535 < n.utf8ByteSize) ∨ ∃ d v, NodeAt t d v ∧ Refused v := by
  have hok : (∃ b, write n t = .ok b) ↔
      (t ≠ .endMark → n.utf8ByteSize ≤ 65535) ∧ Storable t := by
    constructor
    · rintro ⟨b, hb⟩
      exact (write_eq_ok_iff.1 hb).1
    · intro h
      exact ⟨(namedBytes n t).toArray, write_eq_ok_iff.2 ⟨h, List.toList_toArray⟩⟩
  have herror : (∃ e, write n t = .error e) ↔ ¬∃ b, write n t = .ok b := by
    cases write n t with
    | ok b => exact ⟨nofun, fun h => absurd ⟨b, rfl⟩ h⟩
    | error e => exact ⟨fun _ => nofun, fun _ => ⟨e, rfl⟩⟩
  rw [herror, hok, Storable]
  constructor
  · intro h
    by_cases hn : t ≠ .endMark ∧ 65535 < n.utf8ByteSize
    · exact .inl hn
    · refine .inr (Classical.byContradiction fun hnone => h ⟨fun ht => ?_, fun d v hv hr => ?_⟩)
      · exact Nat.not_lt.1 fun hlong => hn ⟨ht, hlong⟩
      · exact hnone ⟨d, v, hv, hr⟩
  · rintro (⟨ht, hlong⟩ | ⟨d, v, hv, hr⟩) ⟨hn, hs⟩
    · exact absurd hlong (Nat.not_lt.2 (hn ht))
    · exact hs d v hv hr

/-- The bytes of a tag that fits are read as the sorted tag. -/
theorem read_of_write {b : Array UInt8} (hf : Fits (maxNesting + 1) t)
    (hn : t = .endMark → n = "") (h : write n t = .ok b) (s : List UInt8) :
    read (b.toList ++ s) = .ok ((n, sorted t), s) := by
  obtain ⟨⟨hname, hs⟩, hb⟩ := write_eq_ok_iff.1 h
  rw [hb]
  by_cases ht : t = .endMark
  · subst ht
    rw [read_endMark, hn rfl]
    simp only [sorted]
  · exact read_namedBytes ht (hname ht) hs hf s

/-- **A readable tag is written and read back**, in whatever order its entries are written. -/
theorem Readable.write_and_read (h : Readable (maxNesting + 1) t) (hn : n.utf8ByteSize ≤ 65535)
    (hend : t = .endMark → n = "") (hw : Reorders t w) :
    write n w = .ok (namedBytes n w).toArray ∧
      ∀ s, read (namedBytes n w ++ s) = .ok ((n, t), s) := by
  have hb : write n w = .ok (namedBytes n w).toArray :=
    write_eq_ok_iff.2 ⟨⟨fun _ => hn, hw.storable h.storable⟩, List.toList_toArray⟩
  refine ⟨hb, fun s => ?_⟩
  have hread := read_of_write (hw.fits h.fits) (fun he => hend (hw.eq_endMark_iff.1 he)) hb s
  rwa [hw.sorted_eq (distinctKeys_of_ordered h.ordered), sorted_eq_self h.ordered] at hread

/-- **Written in any order, a tag comes back exactly when it fits.**  Let `t` have its entries in
key order, and `w` be `t` with these entries in the order of the writer.  Writing is refused
exactly when the name or a node is; and the bytes are read as `t` itself, and nothing behind
them is touched, exactly when no node lies deeper than the limit, no end mark lies below the
root, and an end mark has no name. -/
theorem written_read_iff (ht : Ordered t) (hw : Reorders t w) :
    ((∃ e, write n w = .error e) ↔
      (t ≠ .endMark ∧ 65535 < n.utf8ByteSize) ∨ ∃ d v, NodeAt t d v ∧ Refused v) ∧
    ∀ b, write n w = .ok b → ∀ s,
      (read (b.toList ++ s) = .ok ((n, t), s) ↔
        (∀ d v, NodeAt t d v → d ≤ 512 ∧ (0 < d → v ≠ .endMark)) ∧ (t = .endMark → n = "")) := by
  have hfits : Fits (maxNesting + 1) t ↔
      ∀ d v, NodeAt t d v → d ≤ 512 ∧ (0 < d → v ≠ .endMark) := by
    refine forall₃_congr fun d v _ => and_congr_left' ?_
    exact Nat.lt_succ_iff
  refine ⟨?_, fun b hb s => ⟨fun h => ?_, fun h => ?_⟩⟩
  · rw [write_refused_iff, ne_eq, hw.eq_endMark_iff]
    refine or_congr_right ⟨?_, ?_⟩
    · rintro ⟨d, v, hv, hr⟩
      obtain ⟨u, hu, huv⟩ := hw.exists_nodeAt hv
      exact ⟨d, u, hu, huv.symm.refused hr⟩
    · rintro ⟨d, v, hv, hr⟩
      obtain ⟨u, hu, huv⟩ := hw.symm.exists_nodeAt hv
      exact ⟨d, u, hu, huv.symm.refused hr⟩
  · obtain ⟨hname, -, hread⟩ := read_output h
    exact ⟨hfits.1 hread.fits, hname⟩
  · obtain ⟨hf, hname⟩ := h
    have hread := read_of_write (hw.fits (hfits.2 hf)) (fun he => hname (hw.eq_endMark_iff.1 he))
      hb s
    rwa [hw.sorted_eq (distinctKeys_of_ordered ht), sorted_eq_self ht] at hread

/-- the entries of a position, the later key first -/
theorem written_read_position :
    Ordered (.compound [("xPos", .int 3), ("zPos", .int (-5))]) ∧
    Reorders (.compound [("xPos", .int 3), ("zPos", .int (-5))])
      (.compound [("zPos", .int (-5)), ("xPos", .int 3)]) ∧
    ∃ b, write "Level" (.compound [("zPos", .int (-5)), ("xPos", .int 3)]) = .ok b ∧
      ∀ s, read (b.toList ++ s) =
        .ok (("Level", .compound [("xPos", .int 3), ("zPos", .int (-5))]), s) := by
  have hread : Readable (maxNesting + 1) (.compound [("xPos", .int 3), ("zPos", .int (-5))]) := by
    refine readable_compound_iff.2 ⟨by decide, fun p hp => ?_⟩
    rcases List.mem_cons.1 hp with rfl | hp
    · exact ⟨by decide, by simp, readable_leaf rfl not_false⟩
    · rw [List.mem_singleton.1 hp]
      exact ⟨by decide, by simp, readable_leaf rfl not_false⟩
  have hw : Reorders (.compound [("xPos", .int 3), ("zPos", .int (-5))])
      (.compound [("zPos", .int (-5)), ("xPos", .int 3)]) := .perm (.swap _ _ _)
  obtain ⟨hrefused, hback⟩ := written_read_iff (n := "Level") hread.ordered hw
  refine ⟨hread.ordered, hw, ?_⟩
  cases hb : write "Level" (.compound [("zPos", .int (-5)), ("xPos", .int 3)]) with
  | error e =>
    rcases hrefused.1 ⟨e, hb⟩ with ⟨-, hlong⟩ | ⟨d, v, hv, hr⟩
    · exact absurd hlong (by decide)
    · exact absurd hr (hread.storable d v hv)
  | ok b =>
    refine ⟨b, rfl, fun s => (hback b hb s).2 ⟨fun d v hv => ?_, nofun⟩⟩
    have hf := hread.fits d v hv
    exact ⟨Nat.lt_succ_iff.1 hf.1, hf.2⟩

end Flattening.Tag
