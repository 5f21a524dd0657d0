import Flattening.Proofs.Tag.ReadBytes
import Flattening.Proofs.Tag.Readable

/-!
# What reading can give

Whatever bytes are read, the tag that comes of them could be written again and is in key order.

* `bind_eq_ok`        a reader made of two takes its bytes one after the other;
* `word_lt`, `text_le`, `length_le`   the leaves keep to their widths;
* `mem_of_repeated`, `mem_of_entries` what is repeated is read item by item;
* `payload_output`    a tag that is read has its kind, fits, is storable and in key order;
* `read_output`       and so has a named tag.
-/

namespace Flattening.Tag

theorem Kind.eq_toByte_of_ofByte? {b : UInt8} {k : Kind} (h : ofByte? b = some k) :
    b = k.toByte := by
  unfold ofByte? at h
  split at h
  all_goals
    cases h <;> exact UInt8.toNat_inj.1 ‹_›

namespace Reader

variable {α β : Type} {s s' : List UInt8}

theorem bind_eq_ok {x : Reader α} {f : α → Reader β} {r : β × List UInt8} :
    (x >>= f) s = .ok r ↔ ∃ a mid, x s = .ok (a, mid) ∧ f a mid = .ok r := by
  show StateT.bind x f s = _ ↔ _
  unfold StateT.bind
  cases hx : x s with
  | ok p =>
    obtain ⟨a, mid⟩ := p
    constructor
    · intro h
      exact ⟨a, mid, rfl, h⟩
    · rintro ⟨a', mid', h, h'⟩
      cases h
      exact h'
  | error e =>
    constructor
    · intro h
      cases h
    · rintro ⟨a', mid', h, -⟩
      cases h

theorem pure_eq_ok {a : α} {r : α × List UInt8} : (pure a : Reader α) s = .ok r ↔ r = (a, s) := by
  show Except.ok (a, s) = .ok r ↔ _
  rw [Except.ok.injEq, eq_comm]

theorem throw_ne_ok {e : ReadError} {r : α × List UInt8} : (throw e : Reader α) s ≠ .ok r := nofun

/-! ## leaves -/

theorem takeWord_lt {w so n : Nat} (h : takeWord w so s = some (n, s')) :
    n < (so + 1) * 256 ^ w := by
  induction w generalizing so s with
  | zero =>
    rw [takeWord_zero, Option.some.injEq, Prod.mk.injEq] at h
    obtain ⟨rfl, -⟩ := h
    omega
  | succ w ih =>
    cases s with
    | nil => cases h
    | cons b s =>
      rw [takeWord_succ_cons] at h
      have hb := b.toNat_lt
      have hn := ih h
      have hle : so * 256 + b.toNat + 1 ≤ (so + 1) * 256 := by omega
      calc n < (so * 256 + b.toNat + 1) * 256 ^ w := hn
        _ ≤ (so + 1) * 256 * 256 ^ w := Nat.mul_le_mul_right _ hle
        _ = (so + 1) * 256 ^ (w + 1) := by rw [Nat.mul_assoc, Nat.pow_succ, Nat.mul_comm 256]

theorem word_eq_ok_iff {w : Nat} {r : Nat × List UInt8} :
    word w s = .ok r ↔ takeWord w 0 s = some r := by
  unfold word
  cases takeWord w 0 s with
  | none => exact ⟨nofun, nofun⟩
  | some q => rw [Except.ok.injEq, Option.some.injEq]

theorem word_lt {w n : Nat} (h : word w s = .ok (n, s')) : n < 256 ^ w := by
  have hn := takeWord_lt (word_eq_ok_iff.1 h)
  rwa [Nat.zero_add, Nat.one_mul] at hn

theorem length_le {n : Nat} (h : length s = .ok (n, s')) : n ≤ 2 ^ 31 - 1 := by
  obtain ⟨k, mid, -, hk⟩ := bind_eq_ok.1 h
  split at hk
  · cases pure_eq_ok.1 hk
    omega
  · exact absurd hk throw_ne_ok

theorem size_takeBytes {n : Nat} {out a : Array UInt8} (h : takeBytes n out s = .ok (a, s')) :
    a.size = out.size + n := by
  induction n generalizing out s with
  | zero =>
    rw [takeBytes] at h
    cases h
    rfl
  | succ n ih =>
    cases s with
    | nil => cases h
    | cons b s =>
      rw [takeBytes] at h
      have hs := ih h
      rw [Array.size_push] at hs
      omega

theorem size_bytes {n : Nat} {a : Array UInt8} (h : bytes n s = .ok (a, s')) : a.size = n := by
  have hs := size_takeBytes h
  rwa [Array.size_empty, Nat.zero_add] at hs

theorem text_le {t : String} (h : text s = .ok (t, s')) : t.utf8ByteSize ≤ 65535 := by
  obtain ⟨n, s₁, hn, h⟩ := bind_eq_ok.1 h
  obtain ⟨b, s₂, hb, h⟩ := bind_eq_ok.1 h
  have h1 := word_lt hn
  have h2 := size_bytes hb
  cases ht : String.fromUTF8? ⟨b⟩ with
  | none =>
    rw [ht] at h
    exact absurd h throw_ne_ok
  | some u =>
    rw [ht] at h
    cases pure_eq_ok.1 h
    have hsize : t.utf8ByteSize = b.size := by
      unfold String.fromUTF8? at ht
      split at ht
      · cases ht
        rfl
      · cases ht
    omega

/-! ## repetition -/

theorem mem_of_repeated {item : Reader α} {n : Nat} {out a : Array α}
    (h : repeated item n out s = .ok (a, s')) :
    a.size = out.size + n ∧ ∀ x ∈ a, x ∈ out ∨ ∃ u u', item u = .ok (x, u') := by
  induction n generalizing out s with
  | zero =>
    rw [repeated_zero] at h
    cases h
    exact ⟨rfl, fun x hx => .inl hx⟩
  | succ n ih =>
    rw [repeated_succ] at h
    cases hi : item s with
    | error e =>
      rw [hi] at h
      cases h
    | ok p =>
      obtain ⟨y, mid⟩ := p
      rw [hi] at h
      obtain ⟨hsize, hmem⟩ := ih h
      rw [Array.size_push] at hsize
      refine ⟨by omega, fun x hx => ?_⟩
      rcases hmem x hx with hx | hx
      · rcases Array.mem_push.1 hx with hx | rfl
        · exact .inl hx
        · exact .inr ⟨s, mid, hi⟩
      · exact .inr hx

theorem mem_of_entries {entry : Reader (Option (String × Tag))} {rounds : Nat}
    {out m : Entries String Tag} (h : entries entry rounds out s = .ok (m, s'))
    (ho : Entries.Ascending out) :
    Entries.Ascending m ∧ ∀ p ∈ m, p ∈ out ∨ ∃ u u', entry u = .ok (some p, u') := by
  induction rounds generalizing out s with
  | zero => cases h
  | succ n ih =>
    rw [entries_succ] at h
    cases he : entry s with
    | error e =>
      rw [he] at h
      cases h
    | ok q =>
      obtain ⟨o, mid⟩ := q
      cases o with
      | none =>
        rw [he] at h
        cases h
        exact ⟨ho, fun p hp => .inl hp⟩
      | some kt =>
        obtain ⟨k, t⟩ := kt
        rw [he] at h
        obtain ⟨hm, hmem⟩ := ih h (Entries.ascending_insert k t ho)
        refine ⟨hm, fun p hp => ?_⟩
        rcases hmem p hp with hp | hp
        · rcases Entries.mem_insert hp with rfl | hp
          · exact .inr ⟨s, mid, he⟩
          · exact .inl hp
        · exact .inr hp

theorem named_output {payload : UInt8 → Reader Tag} {k : String} {t : Tag}
    (h : named payload s = .ok (some (k, t), s')) :
    k.utf8ByteSize ≤ 65535 ∧ ∃ b u u', b ≠ 0 ∧ payload b u = .ok (t, u') := by
  obtain ⟨b, s₁, -, h⟩ := bind_eq_ok.1 h
  by_cases hb : b = 0
  · rw [if_pos hb] at h
    cases pure_eq_ok.1 h
  · rw [if_neg hb] at h
    obtain ⟨name, s₂, hname, h⟩ := bind_eq_ok.1 h
    obtain ⟨u, s₃, hu, h⟩ := bind_eq_ok.1 h
    cases pure_eq_ok.1 h
    exact ⟨text_le hname, b, s₂, s', hb, hu⟩

/-! ## tags -/

section

variable {levels : Nat}

/-- A tag made of one reading without parts. -/
theorem leaf_output {x : Reader α} {f : α → Tag} {k : Kind} {t : Tag}
    (h : (do return f (← x) : Reader Tag) s = .ok (t, s'))
    (hf : ∀ a, (f a).kind = k ∧ Readable (levels + 1) (f a)) :
    Kind.ofByte? k.toByte = some t.kind ∧ Readable (levels + 1) t := by
  obtain ⟨a, mid, -, h⟩ := bind_eq_ok.1 h
  cases pure_eq_ok.1 h
  rw [Kind.ofByte?_toByte, (hf a).1]
  exact ⟨rfl, (hf a).2⟩

/-- As many numbers are read as a length has declared. -/
theorem size_repeated_le {item : Reader α} {n : Nat} {a : Array α} (hn : n ≤ 2 ^ 31 - 1)
    (h : repeated item n #[] s = .ok (a, s')) : a.size ≤ 2 ^ 31 - 1 := by
  rw [(mem_of_repeated h).1, Array.size_empty, Nat.zero_add]
  exact hn

/-- The elements of a list that is read have one kind, and an end mark is none of them. -/
theorem readable_list {item : Reader Tag} {e : UInt8} {n : Nat} {l : Array Tag}
    (hitem : ∀ u u' t, item u = .ok (t, u') → Kind.ofByte? e = some t.kind ∧ Readable levels t)
    (hn : n ≤ 2 ^ 31 - 1) (hguard : ¬(e = 0 ∧ 0 < n))
    (hl : repeated item n #[] s = .ok (l, s')) : Readable (levels + 1) (.list l.toList) := by
  obtain ⟨hsize, hmem⟩ := mem_of_repeated hl
  rw [Array.size_empty, Nat.zero_add] at hsize
  have hread : ∀ u ∈ l.toList, Kind.ofByte? e = some u.kind ∧ Readable levels u := by
    intro u hu
    rcases hmem u (Array.mem_toList_iff.1 hu) with hu | ⟨v, v', hv⟩
    · exact absurd hu (Array.not_mem_empty u)
    · exact hitem v v' u hv
  have hne : ∀ u ∈ l.toList, u ≠ .endMark := by
    rintro u hu rfl
    have hpos : 0 < n := by
      rw [← hsize]
      exact Array.size_pos_of_mem (Array.mem_toList_iff.1 hu)
    exact hguard ⟨Kind.eq_toByte_of_ofByte? (hread _ hu).1, hpos⟩
  refine readable_list_iff.2 ⟨?_, fun u hu v hv => ?_, fun u hu => ⟨hne u hu, (hread u hu).2⟩⟩
  · rwa [Array.length_toList, hsize]
  · have hkind := (hread u hu).1
    rw [(hread v hv).1, Option.some.injEq] at hkind
    exact hkind.symm

/-- The entries of a compound that is read have short names, and an end mark is none of them. -/
theorem readable_compound {payload : UInt8 → Reader Tag} {rounds : Nat} {m : Entries String Tag}
    (hp : ∀ b u u' t, payload b u = .ok (t, u') →
      Kind.ofByte? b = some t.kind ∧ Readable levels t)
    (hm : entries (named payload) rounds [] s = .ok (m, s')) :
    Readable (levels + 1) (.compound m) := by
  obtain ⟨hasc, hmem⟩ := mem_of_entries hm Entries.ascending_nil
  refine readable_compound_iff.2 ⟨hasc, fun p hpm => ?_⟩
  rcases hmem p hpm with hp' | ⟨u, u', hu⟩
  · exact absurd hp' List.not_mem_nil
  · obtain ⟨hname, b, v, v', hb, hv⟩ := named_output hu
    obtain ⟨hkind, hread⟩ := hp b v v' p.2 hv
    refine ⟨hname, fun he => hb ?_, hread⟩
    rw [he] at hkind
    exact Kind.eq_toByte_of_ofByte? hkind

end

/-- **A tag that is read has the kind asked for**, could be written again, has a place at its
depth and is in key order. -/
theorem payload_output {rounds levels : Nat} {b : UInt8} {t : Tag}
    (h : payload rounds levels b s = .ok (t, s')) :
    Kind.ofByte? b = some t.kind ∧ Readable levels t := by
  induction levels generalizing b s t s' with
  | zero => exact absurd h throw_ne_ok
  | succ levels ih =>
    cases hk : Kind.ofByte? b with
    | none =>
      rw [payload, hk] at h
      exact absurd h throw_ne_ok
    | some k =>
    obtain rfl := Kind.eq_toByte_of_ofByte? hk
    rw [payload_succ] at h
    cases k with
    | endMark =>
      cases pure_eq_ok.1 h
      exact ⟨rfl, readable_leaf rfl not_false⟩
    | byte => exact leaf_output h fun _ => ⟨rfl, readable_leaf rfl not_false⟩
    | short => exact leaf_output h fun _ => ⟨rfl, readable_leaf rfl not_false⟩
    | int => exact leaf_output h fun _ => ⟨rfl, readable_leaf rfl not_false⟩
    | long => exact leaf_output h fun _ => ⟨rfl, readable_leaf rfl not_false⟩
    | float => exact leaf_output h fun _ => ⟨rfl, readable_leaf rfl not_false⟩
    | double => exact leaf_output h fun _ => ⟨rfl, readable_leaf rfl not_false⟩
    | byteArray =>
      obtain ⟨n, s₁, hn, h⟩ := bind_eq_ok.1 h
      obtain ⟨a, s₂, ha, h⟩ := bind_eq_ok.1 h
      cases pure_eq_ok.1 h
      refine ⟨rfl, readable_leaf rfl fun hlong => ?_⟩
      have hle := length_le hn
      rw [Tag.ofBytes, Refused, Array.size_map, size_bytes ha] at hlong
      exact absurd hlong (Nat.not_lt.2 hle)
    | text =>
      obtain ⟨u, s₁, hu, h⟩ := bind_eq_ok.1 h
      cases pure_eq_ok.1 h
      exact ⟨rfl, readable_leaf rfl (Nat.not_lt.2 (text_le hu))⟩
    | list =>
      obtain ⟨e, s₁, -, h⟩ := bind_eq_ok.1 h
      obtain ⟨n, s₂, hn, h⟩ := bind_eq_ok.1 h
      split at h
      next => cases h
      next hguard =>
      obtain ⟨l, s₃, hl, h⟩ := bind_eq_ok.1 h
      cases pure_eq_ok.1 h
      exact ⟨rfl, readable_list (fun _ _ _ hu => ih hu) (length_le hn) hguard hl⟩
    | compound =>
      obtain ⟨m, s₁, hm, h⟩ := bind_eq_ok.1 h
      cases pure_eq_ok.1 h
      exact ⟨rfl, readable_compound (fun _ _ _ _ hu => ih hu) hm⟩
    | intArray =>
      obtain ⟨n, s₁, hn, h⟩ := bind_eq_ok.1 h
      obtain ⟨a, s₂, ha, h⟩ := bind_eq_ok.1 h
      cases pure_eq_ok.1 h
      refine ⟨rfl, readable_leaf rfl fun hlong => ?_⟩
      rw [Refused, Array.size_map] at hlong
      exact absurd hlong (Nat.not_lt.2 (size_repeated_le (length_le hn) ha))
    | longArray =>
      obtain ⟨n, s₁, hn, h⟩ := bind_eq_ok.1 h
      obtain ⟨a, s₂, ha, h⟩ := bind_eq_ok.1 h
      cases pure_eq_ok.1 h
      refine ⟨rfl, readable_leaf rfl fun hlong => ?_⟩
      rw [Refused, Array.size_map] at hlong
      exact absurd hlong (Nat.not_lt.2 (size_repeated_le (length_le hn) ha))

end Reader

/-- **A tag that is read can be written again**, has a place in a file, and is in key order. -/
theorem read_output {s s' : List UInt8} {n : String} {t : Tag} (h : read s = .ok ((n, t), s')) :
    (t = .endMark → n = "") ∧ n.utf8ByteSize ≤ 65535 ∧ Readable (maxNesting + 1) t := by
  rw [read] at h
  cases hnamed : Reader.named (Reader.payload s.length (maxNesting + 1)) s with
  | error e =>
    rw [hnamed] at h
    cases h
  | ok r =>
    obtain ⟨o, rest⟩ := r
    rw [hnamed] at h
    cases o with
    | none =>
      cases h
      exact ⟨fun _ => rfl, Nat.zero_le _, readable_leaf rfl not_false⟩
    | some p =>
      cases h
      obtain ⟨hname, b, u, u', hb, hu⟩ := Reader.named_output hnamed
      obtain ⟨hkind, hread⟩ := Reader.payload_output hu
      refine ⟨fun he => absurd ?_ hb, hname, hread⟩
      rw [he] at hkind
      exact Kind.eq_toByte_of_ofByte? hkind

end Flattening.Tag
