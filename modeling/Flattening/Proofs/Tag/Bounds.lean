import Flattening.Tag.Shape
import Flattening.Proofs.Tag.Rounds

/-!
# What reading costs

The input alone bounds what reading does, whatever lengths it declares.  Every compound is read
to its end, every element and every entry takes bytes, and a list of end marks, whose elements
would take none, is refused.  So a tag has no more nodes than bytes were taken for it.

* `length_lt_of_payload`    an element takes bytes;
* `payload_endMarks`        a list of end marks is refused;
* `count_le_length_bytes`   no tag has more nodes than bytes;
* `read_bounded`            all of it for a whole input.
-/

namespace Flattening.Tag

/-! ## nodes and bytes -/

theorem length_bytes_pos {t : Tag} (h : t ≠ .endMark) : 0 < (bytes t).length := by
  cases t with
  | endMark => exact absurd rfl h
  | list | compound =>
    simp only [bytes, List.length_cons, List.length_append]
    omega
  | text =>
    simp only [bytes, textBytes, List.length_append, length_bigEndian]
    omega
  | _ =>
    simp only [bytes, List.length_append, length_bigEndian]
    omega

theorem countParts_le {l : List Tag} (h : ∀ u ∈ l, count u ≤ (bytes u).length) :
    countParts l 0 ≤ (bytesOfParts l).length := by
  induction l with
  | nil => exact Nat.zero_le _
  | cons t r ih =>
    have ht := h t List.mem_cons_self
    have hr := ih fun u hu => h u (List.mem_cons_of_mem t hu)
    rw [countParts, countParts_eq, bytesOfParts, List.length_append]
    omega

theorem countEntries_le {m : List (String × Tag)}
    (h : ∀ p ∈ m, count p.2 ≤ (bytes p.2).length) :
    countEntries m 0 ≤ (bytesOfEntries m).length := by
  induction m with
  | nil => exact Nat.zero_le _
  | cons p r ih =>
    obtain ⟨k, t⟩ := p
    have ht := h (k, t) List.mem_cons_self
    have hr := ih fun u hu => h u (List.mem_cons_of_mem _ hu)
    rw [countEntries, countEntries_eq, bytesOfEntries_cons, List.length_append,
      List.length_append]
    dsimp only at ht
    omega

/-- **No tag has more nodes than bytes**, if no node is an end mark. -/
theorem count_le_length_bytes {t : Tag} (h : ∀ d v, NodeAt t d v → v ≠ .endMark) :
    t.count ≤ (bytes t).length := by
  induction t using induction_parts with
  | step t ih =>
    obtain ⟨hroot, hparts⟩ := forall_nodeAt_iff.1 h
    have hpart : ∀ u ∈ t.parts, u.count ≤ (bytes u).length := fun u hu => ih u hu (hparts u hu)
    have hpos := length_bytes_pos hroot
    cases t with
    | list l =>
      have hle : countParts l 0 ≤ (bytesOfParts l).length := countParts_le hpart
      rw [count, countParts_eq, bytes, List.length_cons, List.length_append]
      omega
    | compound m =>
      have hle := countEntries_le fun p hp => hpart p.2 (List.mem_map_of_mem hp)
      rw [count, countEntries_eq, bytes, List.length_append, List.length_singleton]
      omega
    | _ =>
      simp only [count]
      exact hpos

theorem SpellsNamed.count_le {name : String} {t : Tag} {s : List UInt8}
    (h : SpellsNamed name t s) (hne : ∀ d v, NodeAt t d v → 0 < d → v ≠ .endMark) :
    t.count ≤ s.length := by
  cases h with
  | endMark => exact Nat.le_refl _
  | tag hroot h =>
    have hnodes : ∀ d v, NodeAt t d v → v ≠ .endMark := by
      intro d v hv
      cases hv with
      | root => exact hroot
      | part hu hv => exact hne _ v (.part hu hv) (Nat.succ_pos _)
    have hcount := count_le_length_bytes hnodes
    have hle := h.length_le
    rw [List.length_append]
    omega

namespace Reader

variable {rounds levels : Nat} {s s' : List UInt8}

/-! ## elements -/

theorem length_lt_of_payload {e : UInt8} {t : Tag} (he : e ≠ 0)
    (h : payload rounds levels e s = .ok (t, s')) : s'.length < s.length := by
  obtain ⟨rfl, front, rfl, hfront⟩ := exists_spelling h
  have hpos := length_bytes_pos fun ht => he ((typeId_eq_zero_iff t).2 ht)
  have hle := hfront.length_le
  rw [List.length_append]
  omega

/-- A list of end marks is refused before any of them is read. -/
theorem payload_endMarks {n : Nat} (hpos : 0 < n) (hn : n ≤ 2 ^ 31 - 1) (s : List UInt8) :
    payload rounds (levels + 1) Kind.list.toByte (0 :: (bigEndian 4 n ++ s)) =
      .error .listOfEndMarks := by
  rw [payload_succ]
  dsimp only
  rw [bind_of_ok (byte_cons 0 _), bind_of_ok (length_bytes hn s), if_pos ⟨rfl, hpos⟩]
  rfl

end Reader

/-! ## the whole input -/

/-- **Reading ends, and what is read is no greater than the input.**  Each compound in `s` is
read in a loop that comes to its end.  Each element of a list and each entry of a compound takes
at least a byte; only end marks would take none, and a list of them is refused.  A tag that is
read has no more nodes than bytes were taken, and none of them is deeper than the limit. -/
theorem read_bounded (s : List UInt8) :
    (∀ levels out u, u.length ≤ s.length →
      Reader.Loop (Reader.named (Reader.payload s.length levels)) out u
        (Reader.entries (Reader.named (Reader.payload s.length levels)) s.length out u)) ∧
    (∀ levels e u t u', e ≠ 0 →
      Reader.payload s.length levels e u = .ok (t, u') → u'.length < u.length) ∧
    (∀ levels n u, 0 < n → n ≤ 2 ^ 31 - 1 →
      Reader.payload s.length (levels + 1) Kind.list.toByte (0 :: (bigEndian 4 n ++ u)) =
        .error .listOfEndMarks) ∧
    (∀ levels u p u',
      Reader.named (Reader.payload s.length levels) u = .ok (some p, u') →
        u'.length < u.length) ∧
    ∀ n t rest, read s = .ok ((n, t), rest) →
      t.count + rest.length ≤ s.length ∧ ∀ d v, NodeAt t d v → d ≤ 512 := by
  refine ⟨fun levels out u hu => ?_, fun _ _ _ _ _ => Reader.length_lt_of_payload,
    fun _ _ u hpos hn => Reader.payload_endMarks hpos hn u,
    fun _ _ _ _ => Reader.length_lt_of_named, fun n t rest h => ?_⟩
  · exact Reader.loop_entries (Reader.named_nil _) (fun _ _ _ _ => Reader.length_lt_of_named) hu out
  · obtain ⟨front, hs, hfront⟩ := exists_spelling_of_read h
    obtain ⟨-, -, hread⟩ := read_output h
    have hcount := hfront.count_le fun d v hv => (hread.fits d v hv).2
    refine ⟨?_, fun d v hv => Nat.lt_succ_iff.1 (hread.fits d v hv).1⟩
    rw [hs, List.length_append]
    omega

/-- a list of two bytes in a compound -/
def pairBytes : List UInt8 := [10, 0, 0, 9, 0, 1, 97, 1, 0, 0, 0, 2, 5, 6, 0]

theorem read_bounded_pair :
    Reader.Loop (Reader.named (Reader.payload 15 2)) [] [1, 0, 1, 98, 5, 0]
      (.ok ([("b", .byte 5)], [])) ∧
    Reader.payload 15 1 1 [5, 6, 0] = .ok (.byte 5, [6, 0]) ∧
    [(6 : UInt8), 0].length < [(5 : UInt8), 6, 0].length ∧
    Reader.payload 15 2 Kind.list.toByte (0 :: (bigEndian 4 2 ++ [])) =
      .error .listOfEndMarks ∧
    Reader.named (Reader.payload 15 2) [1, 0, 1, 98, 5, 0] =
      .ok (some ("b", .byte 5), [0]) ∧
    [(0 : UInt8)].length < [1, 0, 1, 98, 5, 0].length ∧
    read pairBytes = .ok (("", .compound [("a", .list [.byte 5, .byte 6])]), []) ∧
    (compound [("a", .list [.byte 5, .byte 6])]).count + 0 ≤ 15 ∧
    ∀ d v, NodeAt (compound [("a", .list [.byte 5, .byte 6])]) d v → d ≤ 512 := by
  obtain ⟨hloop, helement, hmarks, hentry, hread⟩ := read_bounded pairBytes
  have he : Reader.payload 15 1 1 [5, 6, 0] = .ok (.byte 5, [6, 0]) := by
    rfl
  have hn : Reader.named (Reader.payload 15 2) [1, 0, 1, 98, 5, 0] =
      .ok (some ("b", .byte 5), [0]) :=
    Reader.named_bytes (k := "b") (t := .byte 5) (by decide) (by simp) rfl
  have hr : read pairBytes = .ok (("", .compound [("a", .list [.byte 5, .byte 6])]), []) := by
    rfl
  exact ⟨hloop 2 [] [1, 0, 1, 98, 5, 0] (by decide), he,
    helement 1 1 _ _ _ (by decide) he, hmarks 1 2 [] (by decide) (by decide), hn,
    hentry 2 _ _ _ hn, hr, hread _ _ _ hr⟩

end Flattening.Tag
