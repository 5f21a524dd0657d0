import Flattening.Proofs.Tag.RoundTrip
import Mathlib.Algebra.Order.BigOperators.Group.List
import Mathlib.Algebra.Order.Group.Nat

/-!
# The spellings of a tag

The reader accepts more than the writer makes: a compound may name a key twice, and an empty list
may declare any kind of element.  `Spells t s` says that the bytes `s` are one of the ways to
spell the payload of `t`; `bytes t` is the shortest of them.

* `bigEndian_of_word`, `textBytes_of_text`   a number or a text has one spelling;
* `exists_pieces_of_repeated`, `exists_pieces_of_entries`   what is repeated is cut into pieces;
* `exists_spelling`      what is read is a spelling of what comes of it;
* `Spells.length_le`     no spelling is shorter than what the writer makes;
* `Reorders.length_bytes`   the order of the entries does not change the length;
* `read_normal_form`     so what is read is written in no more bytes, and read back.
-/

namespace Flattening

theorem bigEndian_of_takeWord {w so n : Nat} {s s' : List UInt8}
    (h : takeWord w so s = some (n, s')) : s = bigEndian w n ++ s' := by
  induction w generalizing n s' with
  | zero =>
    rw [takeWord_zero, Option.some.injEq, Prod.mk.injEq] at h
    exact h.2
  | succ w ih =>
    rw [takeWord_add] at h
    obtain ⟨⟨m, mid⟩, hm, h⟩ := Option.bind_eq_some_iff.1 h
    cases mid with
    | nil => cases h
    | cons b mid =>
      rw [takeWord_succ_cons, takeWord_zero, Option.some.injEq, Prod.mk.injEq] at h
      obtain ⟨rfl, rfl⟩ := h
      have hb := b.toNat_lt
      have hdiv : (m * 256 + b.toNat) / 256 = m := by omega
      have hmod : UInt8.ofNat (m * 256 + b.toNat) = b := by
        apply UInt8.toNat_inj.1
        rw [UInt8.toNat_ofNat']
        omega
      rw [bigEndian_succ, hdiv, hmod, List.append_assoc]
      exact ih hm

namespace Tag

/-! ## spellings -/

/-- `Spells t s` says that `s` spells the payload of `t`.  Every element of a list has the kind
that the list declares, so an empty list may declare any; of the entries of a compound the last
one of a name counts. -/
inductive Spells : Tag → List UInt8 → Prop where
  | leaf {t : Tag} (h : t.list? = none) (h' : t.entries? = none) : Spells t (bytes t)
  | list (e : UInt8) (ps : List (Tag × List UInt8)) (hkind : ∀ p ∈ ps, p.1.typeId = e)
      (h : ∀ p ∈ ps, Spells p.1 p.2) :
      Spells (.list (ps.map Prod.fst)) (e :: (bigEndian 4 ps.length ++ ps.flatMap Prod.snd))
  | compound (ps : List ((String × Tag) × List UInt8)) (hne : ∀ p ∈ ps, p.1.2 ≠ .endMark)
      (h : ∀ p ∈ ps, Spells p.1.2 p.2) :
      Spells (.compound (Entries.ofList (ps.map Prod.fst)))
        (ps.flatMap (fun p => headBytes p.1.1 p.1.2 ++ p.2) ++ [0])

/-- a spelling of a named tag; an end mark has no name -/
inductive SpellsNamed : String → Tag → List UInt8 → Prop where
  | endMark : SpellsNamed "" .endMark [0]
  | tag {name : String} {t : Tag} {s : List UInt8} (hne : t ≠ .endMark) (h : Spells t s) :
      SpellsNamed name t (headBytes name t ++ s)

namespace Reader

variable {α : Type} {s s' : List UInt8}

/-! ## leaves -/

theorem bigEndian_of_word {w n : Nat} (h : word w s = .ok (n, s')) : s = bigEndian w n ++ s' :=
  bigEndian_of_takeWord (word_eq_ok_iff.1 h)

theorem cons_of_byte {b : UInt8} (h : byte s = .ok (b, s')) : s = b :: s' := by
  obtain ⟨n, mid, hn, h⟩ := bind_eq_ok.1 h
  cases pure_eq_ok.1 h
  exact bigEndian_of_word hn

theorem bigEndian_of_length {n : Nat} (h : length s = .ok (n, s')) :
    s = bigEndian 4 n ++ s' := by
  obtain ⟨k, mid, hk, h⟩ := bind_eq_ok.1 h
  split at h
  · cases pure_eq_ok.1 h
    exact bigEndian_of_word hk
  · exact absurd h throw_ne_ok

theorem append_of_takeBytes {n : Nat} {out a : Array UInt8}
    (h : takeBytes n out s = .ok (a, s')) : out.toList ++ s = a.toList ++ s' := by
  induction n generalizing out s with
  | zero =>
    rw [takeBytes] at h
    cases h
    rfl
  | succ n ih =>
    cases s with
    | nil => cases h
    | cons b s =>
      rw [takeBytes] at h
      have hs := ih h
      rwa [Array.toList_push, List.append_assoc] at hs

theorem append_of_bytes {n : Nat} {a : Array UInt8} (h : bytes n s = .ok (a, s')) :
    s = a.toList ++ s' := append_of_takeBytes h

theorem textBytes_of_text {t : String} (h : text s = .ok (t, s')) : s = textBytes t ++ s' := by
  obtain ⟨n, s₁, hn, h⟩ := bind_eq_ok.1 h
  obtain ⟨b, s₂, hb, h⟩ := bind_eq_ok.1 h
  cases ht : String.fromUTF8? ⟨b⟩ with
  | none =>
    rw [ht] at h
    exact absurd h throw_ne_ok
  | some u =>
    rw [ht] at h
    cases pure_eq_ok.1 h
    have hu : t.toUTF8.data = b := by
      unfold String.fromUTF8? at ht
      split at ht
      · cases ht
        rfl
      · cases ht
    have hsize : t.utf8ByteSize = n := by
      rw [← size_bytes hb, ← hu]
      rfl
    rw [bigEndian_of_word hn, append_of_bytes hb, textBytes, hsize, hu, List.append_assoc]

/-! ## repetition -/

/-- What is read item by item is cut into one piece for each item. -/
theorem exists_pieces_of_repeated {item : Reader α} {R : α → List UInt8 → Prop}
    (hitem : ∀ a u u', item u = .ok (a, u') → ∃ f, u = f ++ u' ∧ R a f) {n : Nat}
    {out a : Array α} (h : repeated item n out s = .ok (a, s')) :
    ∃ ps : List (α × List UInt8), a.toList = out.toList ++ ps.map Prod.fst ∧ ps.length = n ∧
      s = ps.flatMap Prod.snd ++ s' ∧ ∀ p ∈ ps, R p.1 p.2 := by
  induction n generalizing out s with
  | zero =>
    rw [repeated_zero] at h
    cases h
    exact ⟨[], (List.append_nil _).symm, rfl, rfl, fun p hp => absurd hp List.not_mem_nil⟩
  | succ n ih =>
    rw [repeated_succ] at h
    cases hi : item s with
    | error e =>
      rw [hi] at h
      cases h
    | ok q =>
      obtain ⟨x, mid⟩ := q
      rw [hi] at h
      obtain ⟨f, rfl, hf⟩ := hitem x s mid hi
      obtain ⟨ps, ha, hlen, rfl, hps⟩ := ih h
      refine ⟨(x, f) :: ps, ?_, ?_, ?_, ?_⟩
      · rw [ha, Array.toList_push, List.append_assoc]
        rfl
      · rw [List.length_cons, hlen]
      · rw [List.flatMap_cons, List.append_assoc]
      · exact List.forall_mem_cons.2 ⟨hf, hps⟩

/-- Entry by entry likewise; each piece follows a kind and a name, and the end mark is behind the
last one. -/
theorem exists_pieces_of_entries {entry : Reader (Option (String × Tag))}
    {R : String × Tag → List UInt8 → Prop}
    (hentry : ∀ p u u', entry u = .ok (some p, u') →
      ∃ f, u = headBytes p.1 p.2 ++ f ++ u' ∧ R p f)
    (hend : ∀ u u', entry u = .ok (none, u') → u = 0 :: u') {rounds : Nat}
    {out m : Entries String Tag} (h : entries entry rounds out s = .ok (m, s')) :
    ∃ ps : List ((String × Tag) × List UInt8),
      m = (ps.map Prod.fst).foldl (fun m p => Entries.insert p.1 p.2 m) out ∧
      s = ps.flatMap (fun p => headBytes p.1.1 p.1.2 ++ p.2) ++ 0 :: s' ∧
      ∀ p ∈ ps, R p.1 p.2 := by
  induction rounds generalizing out s with
  | zero => cases h
  | succ n ih =>
    rw [entries_succ] at h
    cases he : entry s with
    | error e =>
      rw [he] at h
      cases h
    | ok q =>
      obtain ⟨o, mid⟩ := q
      rw [he] at h
      cases o with
      | none =>
        cases h
        exact ⟨[], rfl, hend s s' he, fun p hp => absurd hp List.not_mem_nil⟩
      | some p =>
        obtain ⟨f, rfl, hf⟩ := hentry p s mid he
        obtain ⟨ps, rfl, rfl, hps⟩ := ih h
        refine ⟨(p, f) :: ps, rfl, ?_, List.forall_mem_cons.2 ⟨hf, hps⟩⟩
        rw [List.flatMap_cons, List.append_assoc _ _ (0 :: s')]

theorem eq_of_named_none {payload : UInt8 → Reader Tag} (h : named payload s = .ok (none, s')) :
    s = 0 :: s' := by
  obtain ⟨b, s₁, hb, h⟩ := bind_eq_ok.1 h
  by_cases h0 : b = 0
  · rw [if_pos h0] at h
    cases pure_eq_ok.1 h
    rw [cons_of_byte hb, h0]
  · rw [if_neg h0] at h
    obtain ⟨name, s₂, hname, h⟩ := bind_eq_ok.1 h
    obtain ⟨t, s₃, ht, h⟩ := bind_eq_ok.1 h
    cases pure_eq_ok.1 h

/-- A named tag is read from its kind, its name and a spelling of it. -/
theorem exists_piece_of_named {payload : UInt8 → Reader Tag} {p : String × Tag}
    (hp : ∀ b t u u', payload b u = .ok (t, u') →
      b = t.typeId ∧ ∃ f, u = f ++ u' ∧ Spells t f)
    (h : named payload s = .ok (some p, s')) :
    p.2 ≠ .endMark ∧ ∃ f, s = headBytes p.1 p.2 ++ f ++ s' ∧ Spells p.2 f := by
  obtain ⟨b, s₁, hb, h⟩ := bind_eq_ok.1 h
  by_cases h0 : b = 0
  · rw [if_pos h0] at h
    cases pure_eq_ok.1 h
  · rw [if_neg h0] at h
    obtain ⟨name, s₂, hname, h⟩ := bind_eq_ok.1 h
    obtain ⟨t, s₃, ht, h⟩ := bind_eq_ok.1 h
    cases pure_eq_ok.1 h
    obtain ⟨rfl, f, rfl, hf⟩ := hp b t s₂ s' ht
    have hne : t ≠ .endMark := fun he => h0 ((typeId_eq_zero_iff t).2 he)
    refine ⟨hne, f, ?_, hf⟩
    rw [cons_of_byte hb, textBytes_of_text hname, headBytes_of_ne hne, List.append_assoc,
      List.cons_append]

/-! ## tags -/

/-- A tag that is one number. -/
theorem spells_number {w : Nat} {f : Nat → Tag} {t : Tag}
    (h : (do return f (← word w) : Reader Tag) s = .ok (t, s'))
    (hf : ∀ n < 256 ^ w, Tag.bytes (f n) = bigEndian w n)
    (hk : ∀ n, (f n).list? = none ∧ (f n).entries? = none) :
    ∃ front, s = front ++ s' ∧ Spells t front := by
  obtain ⟨n, mid, hn, h⟩ := bind_eq_ok.1 h
  cases pure_eq_ok.1 h
  refine ⟨_, ?_, .leaf (hk n).1 (hk n).2⟩
  rw [hf n (word_lt hn)]
  exact bigEndian_of_word hn

/-- Numbers read one after the other. -/
theorem flatMap_of_repeated_word {w n : Nat} {a : Array Nat}
    (h : repeated (word w) n #[] s = .ok (a, s')) :
    (∀ m ∈ a.toList, m < 256 ^ w) ∧ a.size = n ∧ s = a.toList.flatMap (bigEndian w) ++ s' := by
  have hitem : ∀ m u u', word w u = .ok (m, u') →
      ∃ f, u = f ++ u' ∧ m < 256 ^ w ∧ f = bigEndian w m := fun m u u' hm =>
    ⟨bigEndian w m, bigEndian_of_word hm, word_lt hm, rfl⟩
  obtain ⟨ps, ha, hlen, rfl, hps⟩ := exists_pieces_of_repeated hitem h
  rw [List.nil_append] at ha
  refine ⟨fun m hm => ?_, ?_, ?_⟩
  · rw [ha] at hm
    obtain ⟨p, hp, rfl⟩ := List.mem_map.1 hm
    exact (hps p hp).1
  · rw [← Array.length_toList, ha, List.length_map, hlen]
  · have hpieces : ps.flatMap Prod.snd = ps.flatMap fun p => bigEndian w p.1 :=
      List.flatMap_congr fun p hp => (hps p hp).2
    rw [ha, List.flatMap_map, hpieces]

/-- The elements of a list, each of the declared kind. -/
theorem spells_list {item : Reader Tag} {e : UInt8} {n : Nat} {l : Array Tag}
    (hitem : ∀ t u u', item u = .ok (t, u') → e = t.typeId ∧ ∃ f, u = f ++ u' ∧ Spells t f)
    (h : repeated item n #[] s = .ok (l, s')) :
    ∃ front, e :: (bigEndian 4 n ++ s) = front ++ s' ∧ Spells (.list l.toList) front := by
  have hpiece : ∀ t u u', item u = .ok (t, u') →
      ∃ f, u = f ++ u' ∧ e = t.typeId ∧ Spells t f := by
    intro t u u' hu
    obtain ⟨hid, f, hf, hspells⟩ := hitem t u u' hu
    exact ⟨f, hf, hid, hspells⟩
  obtain ⟨ps, hl, rfl, rfl, hps⟩ := exists_pieces_of_repeated hpiece h
  rw [List.nil_append] at hl
  rw [hl]
  refine ⟨_, ?_, .list e ps (fun p hp => (hps p hp).1.symm) fun p hp => (hps p hp).2⟩
  rw [List.cons_append, List.append_assoc]

/-- The entries of a compound, with all that the later ones replace. -/
theorem spells_compound {payload : UInt8 → Reader Tag} {rounds : Nat} {m : Entries String Tag}
    (hp : ∀ b t u u', payload b u = .ok (t, u') → b = t.typeId ∧ ∃ f, u = f ++ u' ∧ Spells t f)
    (h : entries (named payload) rounds [] s = .ok (m, s')) :
    ∃ front, s = front ++ s' ∧ Spells (.compound m) front := by
  have hentry : ∀ p u u', named payload u = .ok (some p, u') →
      ∃ f, u = headBytes p.1 p.2 ++ f ++ u' ∧ p.2 ≠ .endMark ∧ Spells p.2 f := by
    intro p u u' hu
    obtain ⟨hne, f, hf, hspells⟩ := exists_piece_of_named hp hu
    exact ⟨f, hf, hne, hspells⟩
  obtain ⟨ps, rfl, rfl, hps⟩ := exists_pieces_of_entries hentry (fun _ _ => eq_of_named_none) h
  refine ⟨_, ?_, .compound ps (fun p hp => (hps p hp).1) fun p hp => (hps p hp).2⟩
  rw [List.append_assoc, List.singleton_append]

/-- **What is read is a spelling of what comes of it**, of the kind that was asked for. -/
theorem exists_spelling {rounds levels : Nat} {b : UInt8} {t : Tag}
    (h : payload rounds levels b s = .ok (t, s')) :
    b = t.typeId ∧ ∃ front, s = front ++ s' ∧ Spells t front := by
  refine ⟨Kind.eq_toByte_of_ofByte? (payload_output h).1, ?_⟩
  induction levels generalizing b s t s' with
  | zero => exact absurd h throw_ne_ok
  | succ levels ih =>
    cases hk : Kind.ofByte? b with
    | none =>
      rw [payload, hk] at h
      exact absurd h throw_ne_ok
    | some k =>
    obtain rfl := Kind.eq_toByte_of_ofByte? hk
    have hpart : ∀ b t u u', payload rounds levels b u = .ok (t, u') →
        b = t.typeId ∧ ∃ f, u = f ++ u' ∧ Spells t f := fun b t u u' hu =>
      ⟨Kind.eq_toByte_of_ofByte? (payload_output hu).1, ih hu⟩
    rw [payload_succ] at h
    cases k with
    | endMark =>
      cases pure_eq_ok.1 h
      exact ⟨[], rfl, .leaf rfl rfl⟩
    | byte =>
      exact spells_number h (fun _ hn => congrArg (bigEndian 1) (UInt8.toNat_ofNat_of_lt' hn))
        fun _ => ⟨rfl, rfl⟩
    | short =>
      exact spells_number h (fun _ hn => congrArg (bigEndian 2) (UInt16.toNat_ofNat_of_lt' hn))
        fun _ => ⟨rfl, rfl⟩
    | int =>
      exact spells_number h (fun _ hn => congrArg (bigEndian 4) (UInt32.toNat_ofNat_of_lt' hn))
        fun _ => ⟨rfl, rfl⟩
    | long =>
      exact spells_number h (fun _ hn => congrArg (bigEndian 8) (UInt64.toNat_ofNat_of_lt' hn))
        fun _ => ⟨rfl, rfl⟩
    | float =>
      exact spells_number h (fun _ hn => congrArg (bigEndian 4) (UInt32.toNat_ofNat_of_lt' hn))
        fun _ => ⟨rfl, rfl⟩
    | double =>
      exact spells_number h (fun _ hn => congrArg (bigEndian 8) (UInt64.toNat_ofNat_of_lt' hn))
        fun _ => ⟨rfl, rfl⟩
    | byteArray =>
      obtain ⟨n, s₁, hn, h⟩ := bind_eq_ok.1 h
      obtain ⟨a, s₂, ha, h⟩ := bind_eq_ok.1 h
      cases pure_eq_ok.1 h
      refine ⟨_, ?_, .leaf rfl rfl⟩
      rw [bigEndian_of_length hn, append_of_bytes ha, Tag.ofBytes, Tag.bytes, Array.size_map,
        size_bytes ha, List.append_assoc]
      simp [Function.comp_def]
    | text =>
      obtain ⟨u, s₁, hu, h⟩ := bind_eq_ok.1 h
      cases pure_eq_ok.1 h
      exact ⟨_, textBytes_of_text hu, .leaf rfl rfl⟩
    | list =>
      obtain ⟨e, s₁, he, h⟩ := bind_eq_ok.1 h
      obtain ⟨n, s₂, hn, h⟩ := bind_eq_ok.1 h
      split at h
      next => cases h
      next hguard =>
      obtain ⟨l, s₃, hl, h⟩ := bind_eq_ok.1 h
      cases pure_eq_ok.1 h
      rw [cons_of_byte he, bigEndian_of_length hn]
      exact spells_list (fun t u u' => hpart e t u u') hl
    | compound =>
      obtain ⟨m, s₁, hm, h⟩ := bind_eq_ok.1 h
      cases pure_eq_ok.1 h
      exact spells_compound hpart hm
    | intArray =>
      obtain ⟨n, s₁, hn, h⟩ := bind_eq_ok.1 h
      obtain ⟨a, s₂, ha, h⟩ := bind_eq_ok.1 h
      cases pure_eq_ok.1 h
      obtain ⟨hlt, hsize, rfl⟩ := flatMap_of_repeated_word ha
      refine ⟨_, ?_, .leaf rfl rfl⟩
      rw [bigEndian_of_length hn, Tag.bytes, Array.size_map, hsize, List.append_assoc,
        Array.toList_map, List.flatMap_map]
      congr 2
      refine List.flatMap_congr fun m hm => ?_
      show _ = bigEndian 4 (UInt32.ofNat m).toNat
      rw [UInt32.toNat_ofNat_of_lt' (hlt m hm)]
    | longArray =>
      obtain ⟨n, s₁, hn, h⟩ := bind_eq_ok.1 h
      obtain ⟨a, s₂, ha, h⟩ := bind_eq_ok.1 h
      cases pure_eq_ok.1 h
      obtain ⟨hlt, hsize, rfl⟩ := flatMap_of_repeated_word ha
      refine ⟨_, ?_, .leaf rfl rfl⟩
      rw [bigEndian_of_length hn, Tag.bytes, Array.size_map, hsize, List.append_assoc,
        Array.toList_map, List.flatMap_map]
      congr 2
      refine List.flatMap_congr fun m hm => ?_
      show _ = bigEndian 8 (UInt64.ofNat m).toNat
      rw [UInt64.toNat_ofNat_of_lt' (hlt m hm)]

end Reader

/-! ## lengths -/

theorem bytesOfEntries_eq (m : List (String × Tag)) :
    bytesOfEntries m = m.flatMap fun p => headBytes p.1 p.2 ++ bytes p.2 := by
  induction m with
  | nil => rw [bytesOfEntries, List.flatMap_nil]
  | cons p r ih =>
    obtain ⟨k, t⟩ := p
    rw [bytesOfEntries_cons, List.flatMap_cons, ih, List.append_assoc]

/-- A replaced entry makes place for the new one. -/
theorem length_bytesOfEntries_insert_le (k : String) (t : Tag) (m : Entries String Tag) :
    (bytesOfEntries (Entries.insert k t m)).length ≤
      (bytesOfEntries m).length + (headBytes k t ++ bytes t).length := by
  induction m with
  | nil =>
    rw [Entries.insert_nil, bytesOfEntries_eq, List.flatMap_singleton]
    exact Nat.le_add_left _ _
  | cons p r ih =>
    obtain ⟨k', t'⟩ := p
    rw [Entries.insert_cons]
    split
    · simp only [bytesOfEntries_cons, List.length_append]
      omega
    · split
      · simp only [bytesOfEntries_cons, List.length_append]
        omega
      · simp only [bytesOfEntries_cons, List.length_append] at ih ⊢
        omega

theorem length_bytesOfEntries_ofList_le (l : List (String × Tag)) :
    (bytesOfEntries (Entries.ofList l)).length ≤ (bytesOfEntries l).length := by
  induction l using List.reverseRecOn with
  | nil => exact Nat.le_refl _
  | append_singleton l p ih =>
    have h := length_bytesOfEntries_insert_le p.1 p.2 (Entries.ofList l)
    have hl : bytesOfEntries (l ++ [p]) = bytesOfEntries l ++ (headBytes p.1 p.2 ++ bytes p.2) := by
      rw [bytesOfEntries_eq, bytesOfEntries_eq, List.flatMap_append, List.flatMap_singleton]
    rw [Entries.ofList_append_singleton, hl, List.length_append]
    omega

theorem length_flatMap_le {α β : Type} {l : List α} {f g : α → List β}
    (h : ∀ a ∈ l, (f a).length ≤ (g a).length) :
    (l.flatMap f).length ≤ (l.flatMap g).length := by
  rw [List.length_flatMap, List.length_flatMap]
  exact List.sum_le_sum h

/-- **No spelling is shorter than what the writer makes.** -/
theorem Spells.length_le {t : Tag} {s : List UInt8} (h : Spells t s) :
    (bytes t).length ≤ s.length := by
  induction h with
  | leaf => exact Nat.le_refl _
  | list e ps hkind h ih =>
    have hparts : (bytesOfParts (ps.map Prod.fst)).length ≤ (ps.flatMap Prod.snd).length := by
      rw [bytesOfParts_eq, List.flatMap_map]
      exact length_flatMap_le ih
    simp only [bytes, List.length_cons, List.length_append, length_bigEndian]
    omega
  | compound ps hne h ih =>
    have hentries : (bytesOfEntries (ps.map Prod.fst)).length ≤
        (ps.flatMap fun p => headBytes p.1.1 p.1.2 ++ p.2).length := by
      rw [bytesOfEntries_eq, List.flatMap_map]
      refine length_flatMap_le fun p hp => ?_
      have hp := ih p hp
      rw [List.length_append, List.length_append]
      omega
    have hkept := length_bytesOfEntries_ofList_le (ps.map Prod.fst)
    simp only [bytes, List.length_append]
    omega

theorem SpellsNamed.length_le {name : String} {t : Tag} {s : List UInt8}
    (h : SpellsNamed name t s) : (namedBytes name t).length ≤ s.length := by
  cases h with
  | endMark => exact Nat.le_refl _
  | tag hne h =>
    have hle := h.length_le
    rw [namedBytes, List.length_append, List.length_append]
    omega

theorem Reorders.length_headBytes {t w : Tag} (h : Reorders t w) (name : String) :
    (headBytes name w).length = (headBytes name t).length := by
  by_cases ht : t = .endMark
  · rw [h.eq_endMark_iff.2 ht, ht]
  · have hw : w ≠ .endMark := fun he => ht (h.eq_endMark_iff.1 he)
    rw [Reader.headBytes_of_ne ht, Reader.headBytes_of_ne hw, List.length_cons, List.length_cons]

/-- The order of the entries does not change the length. -/
theorem Reorders.length_bytes {t w : Tag} (h : Reorders t w) :
    (bytes w).length = (bytes t).length := by
  induction h with
  | refl => rfl
  | trans _ _ ih ih' => exact ih'.trans ih
  | element before after h ih =>
    simp only [bytes, bytesOfParts_eq, List.flatMap_append, List.flatMap_cons, List.length_cons,
      List.length_append, length_bigEndian, ih]
  | entry before after k h ih =>
    simp only [bytes, bytesOfEntries_eq, List.flatMap_append, List.flatMap_cons,
      List.length_append, ih, h.length_headBytes]
  | perm h =>
    have hp := (h.flatMap_right fun p => headBytes p.1 p.2 ++ bytes p.2).length_eq
    rw [bytes, bytes, List.length_append, List.length_append, bytesOfEntries_eq,
      bytesOfEntries_eq, hp]

theorem Reorders.length_namedBytes {t w : Tag} (h : Reorders t w) (name : String) :
    (namedBytes name w).length = (namedBytes name t).length := by
  rw [namedBytes, namedBytes, List.length_append, List.length_append, h.length_bytes,
    h.length_headBytes]

/-! ## the normal form -/

theorem exists_spelling_of_read {s rest : List UInt8} {n : String} {t : Tag}
    (h : read s = .ok ((n, t), rest)) : ∃ front, s = front ++ rest ∧ SpellsNamed n t front := by
  rw [read] at h
  cases hnamed : Reader.named (Reader.payload s.length (maxNesting + 1)) s with
  | error e =>
    rw [hnamed] at h
    cases h
  | ok r =>
    obtain ⟨o, rest'⟩ := r
    rw [hnamed] at h
    cases o with
    | none =>
      cases h
      exact ⟨[0], Reader.eq_of_named_none hnamed, .endMark⟩
    | some p =>
      cases h
      obtain ⟨hne, f, hf, hspells⟩ :=
        Reader.exists_piece_of_named (fun _ _ _ _ => Reader.exists_spelling) hnamed
      exact ⟨_, hf, .tag hne hspells⟩

/-- **Reading and writing again gives a normal form.**  What is read from the front of `s` spells
the tag that comes of it, in whatever form.  This tag is written, with the entries of its compounds
in any order `w`, in no more bytes than were taken; and reading them gives the same name and the
same tag. -/
theorem read_normal_form {s rest : List UInt8} {n : String} {t w : Tag}
    (h : read s = .ok ((n, t), rest)) (hw : Reorders t w) :
    ∃ front b, s = front ++ rest ∧ SpellsNamed n t front ∧
      write n w = .ok b ∧ b.size ≤ front.length ∧
      ∀ s', read (b.toList ++ s') = .ok ((n, t), s') := by
  obtain ⟨front, hs, hfront⟩ := exists_spelling_of_read h
  obtain ⟨hend, hname, hread⟩ := read_output h
  obtain ⟨hb, hback⟩ := hread.write_and_read hname hend hw
  refine ⟨front, _, hs, hfront, hb, ?_, hback⟩
  rw [List.size_toArray, hw.length_namedBytes]
  exact hfront.length_le

/-- one name twice, and an empty list that declares texts -/
theorem read_normal_form_repeated :
    read ([10, 0, 0, 1, 0, 1, 97, 5, 1, 0, 1, 97, 6, 9, 0, 1, 98, 8, 0, 0, 0, 0, 0] ++ [7]) =
      .ok (("", .compound [("a", .byte 6), ("b", .list [])]), [7]) ∧
    Reorders (.compound [("a", .byte 6), ("b", .list [])])
      (.compound [("b", .list []), ("a", .byte 6)]) ∧
    ∃ b, write "" (.compound [("b", .list []), ("a", .byte 6)]) = .ok b ∧ b.size ≤ 23 ∧
      ∀ s', read (b.toList ++ s') =
        .ok (("", .compound [("a", .byte 6), ("b", .list [])]), s') := by
  have hread : read
      ([10, 0, 0, 1, 0, 1, 97, 5, 1, 0, 1, 97, 6, 9, 0, 1, 98, 8, 0, 0, 0, 0, 0] ++ [7]) =
      .ok (("", .compound [("a", .byte 6), ("b", .list [])]), [7]) := by
    rfl
  have hw : Reorders (.compound [("a", .byte 6), ("b", .list [])])
      (.compound [("b", .list []), ("a", .byte 6)]) := .perm (.swap _ _ _)
  obtain ⟨front, b, hs, -, hb, hsize, hback⟩ := read_normal_form hread hw
  have hfront := List.append_cancel_right hs
  exact ⟨hread, hw, b, hb, by rwa [← hfront] at hsize, hback⟩

end Tag

end Flattening
