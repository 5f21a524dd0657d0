import Flattening.Proofs.Tag.Sorted
import Flattening.Proofs.Tag.Written

/-!
# Reading the bytes of a tag

Each reader takes from the front exactly the bytes that stand for its value.

* `takeWord_bigEndian`   a number is read back, up to the bytes that were written;
* `word_bigEndian`, `length_bytes`, `text_bytes`   the leaves;
* `repeated_bytes`, `entries_bytes`   what is repeated;
* `number_bytes`, `byteArray_bytes`, `intArray_bytes`, `longArray_bytes`   tags without parts;
* `list_bytes`, `compound_bytes`   one level of a nested tag;
* `payload_bytes`    the bytes of a tag are read as the sorted tag;
* `read_namedBytes`  and so are kind and name with them.
-/

namespace Flattening

theorem takeWord_bigEndian (w so n : Nat) (s : List UInt8) :
    takeWord w so (bigEndian w n ++ s) = some (so * 256 ^ w + n % 256 ^ w, s) := by
  induction w generalizing n s with
  | zero => simp [takeWord_zero, bigEndian_zero, Nat.mod_one]
  | succ w ih =>
    rw [bigEndian_succ, List.append_assoc, takeWord_add, ih]
    simp only [Option.bind_some, List.singleton_append, takeWord_succ_cons, takeWord_zero,
      Option.some.injEq, Prod.mk.injEq, and_true, UInt8.toNat_ofNat']
    have hw : 256 ^ (w + 1) = 256 * 256 ^ w := by rw [Nat.pow_succ, Nat.mul_comm]
    rw [hw, Nat.mod_mul]
    show _ * 256 + n % 256 = _
    grind

namespace Tag

namespace Reader

variable {α β : Type}

theorem bind_of_ok {x : Reader α} {f : α → Reader β} {a : α} {s s' : List UInt8}
    (h : x s = .ok (a, s')) : (x >>= f) s = f a s' := by
  show StateT.bind x f s = f a s'
  unfold StateT.bind
  rw [h]
  rfl

/-! ## leaves -/

theorem word_bigEndian {w n : Nat} (h : n < 256 ^ w) (s : List UInt8) :
    word w (bigEndian w n ++ s) = .ok (n, s) := by
  rw [word, takeWord_bigEndian, Nat.zero_mul, Nat.zero_add, Nat.mod_eq_of_lt h]

theorem byte_cons (b : UInt8) (s : List UInt8) : byte (b :: s) = .ok (b, s) := by
  have h : word 1 (b :: s) = .ok (b.toNat, s) := by
    rw [word, takeWord_succ_cons, takeWord_zero, Nat.zero_mul, Nat.zero_add]
  rw [byte, bind_of_ok h]
  show Except.ok (UInt8.ofNat b.toNat, s) = _
  rw [UInt8.ofNat_toNat]

theorem length_bytes {n : Nat} (h : n ≤ 2 ^ 31 - 1) (s : List UInt8) :
    length (bigEndian 4 n ++ s) = .ok (n, s) := by
  have h4 : n < 256 ^ 4 := by omega
  rw [length, bind_of_ok (word_bigEndian h4 s), if_pos (by omega)]
  rfl

theorem takeBytes_append (l : List UInt8) (out : Array UInt8) (s : List UInt8) :
    takeBytes l.length out (l ++ s) = .ok (out ++ l.toArray, s) := by
  induction l generalizing out with
  | nil => simp [takeBytes]
  | cons b l ih =>
    rw [List.length_cons, List.cons_append, takeBytes, ih]
    simp

theorem bytes_append (l : List UInt8) (s : List UInt8) :
    bytes l.length (l ++ s) = .ok (l.toArray, s) := by
  rw [bytes, takeBytes_append]
  simp

theorem fromUTF8?_toUTF8 (t : String) : String.fromUTF8? t.toUTF8 = some t := by
  rw [String.fromUTF8?, String.toUTF8_eq_toByteArray, dif_pos t.isValidUTF8]
  rfl

theorem text_bytes {t : String} (h : t.utf8ByteSize ≤ 65535) (s : List UInt8) :
    text (textBytes t ++ s) = .ok (t, s) := by
  have h2 : t.utf8ByteSize < 256 ^ 2 := by omega
  have hsize : t.utf8ByteSize = t.toUTF8.data.toList.length := rfl
  have hb : bytes t.utf8ByteSize (t.toUTF8.data.toList ++ s) = .ok (t.toUTF8.data, s) := by
    rw [hsize, bytes_append, Array.toArray_toList]
  rw [text, textBytes, List.append_assoc, bind_of_ok (word_bigEndian h2 _), bind_of_ok hb]
  have hs : String.fromUTF8? ⟨t.toUTF8.data⟩ = some t := fromUTF8?_toUTF8 t
  simp only [hs]
  rfl

/-! ## repetition -/

theorem repeated_bytes {item : Reader α} {l : List β} {g : β → List UInt8} {f : β → α}
    (h : ∀ b ∈ l, ∀ s, item (g b ++ s) = .ok (f b, s)) (out : Array α) (s : List UInt8) :
    repeated item l.length out (l.flatMap g ++ s) = .ok (out ++ (l.map f).toArray, s) := by
  induction l generalizing out with
  | nil => simp [repeated_zero]
  | cons b l ih =>
    have hb := h b List.mem_cons_self (l.flatMap g ++ s)
    rw [List.length_cons, List.flatMap_cons, List.append_assoc, repeated_succ, hb]
    dsimp only
    rw [ih fun c hc => h c (List.mem_cons_of_mem b hc)]
    simp

theorem named_endMark (payload : UInt8 → Reader Tag) (s : List UInt8) :
    named payload (0 :: s) = .ok (none, s) := by
  rw [named, bind_of_ok (byte_cons 0 s), if_pos rfl]
  rfl

theorem typeId_eq_zero_iff (t : Tag) : t.typeId = 0 ↔ t = .endMark := by
  rw [← kind_eq_endMark_iff]
  have h0 : (0 : UInt8) = Kind.endMark.toByte := rfl
  exact ⟨fun h => Kind.toByte_inj (h.trans h0), fun h => (congrArg Kind.toByte h).trans h0.symm⟩

theorem headBytes_of_ne {t : Tag} (h : t ≠ .endMark) (k : String) :
    headBytes k t = t.typeId :: textBytes k := by
  cases t with
  | endMark => exact absurd rfl h
  | _ => rfl

/-- An entry is read from its kind, its name and its payload. -/
theorem named_bytes {payload : UInt8 → Reader Tag} {k : String} {t u : Tag}
    (hk : k.utf8ByteSize ≤ 65535) (ht : t ≠ .endMark) {s s' : List UInt8}
    (h : payload t.typeId s = .ok (u, s')) :
    named payload (headBytes k t ++ s) = .ok (some (k, u), s') := by
  have h0 : t.typeId ≠ 0 := fun h => ht ((typeId_eq_zero_iff t).1 h)
  rw [headBytes_of_ne ht, List.cons_append, named, bind_of_ok (byte_cons _ _), if_neg h0,
    bind_of_ok (text_bytes hk s), bind_of_ok h]
  rfl

theorem entries_bytes {payload : UInt8 → Reader Tag} {m : List (String × Tag)}
    (hk : ∀ p ∈ m, p.1.utf8ByteSize ≤ 65535) (ht : ∀ p ∈ m, p.2 ≠ .endMark)
    (h : ∀ p ∈ m, ∀ s, payload p.2.typeId (Tag.bytes p.2 ++ s) = .ok (sorted p.2, s))
    {rounds : Nat} (hr : m.length < rounds) (out : Entries String Tag) (s : List UInt8) :
    entries (named payload) rounds out (bytesOfEntries m ++ 0 :: s) =
      .ok ((m.map fun p => (p.1, sorted p.2)).foldl (fun m p => Entries.insert p.1 p.2 m) out,
        s) := by
  induction m generalizing rounds out with
  | nil =>
    obtain ⟨n, rfl⟩ : ∃ n, rounds = n + 1 := ⟨rounds - 1, by rw [List.length_nil] at hr; omega⟩
    rw [bytesOfEntries, List.nil_append, entries_succ, named_endMark]
    rfl
  | cons p r ih =>
    obtain ⟨k, t⟩ := p
    obtain ⟨n, rfl⟩ : ∃ n, rounds = n + 1 := ⟨rounds - 1, by rw [List.length_cons] at hr; omega⟩
    have hn : r.length < n := by
      rw [List.length_cons] at hr
      omega
    have hp := h (k, t) List.mem_cons_self (bytesOfEntries r ++ 0 :: s)
    have hnamed := named_bytes (hk (k, t) List.mem_cons_self) (ht (k, t) List.mem_cons_self) hp
    rw [bytesOfEntries_cons, List.append_assoc, List.append_assoc, entries_succ, hnamed]
    dsimp only
    rw [ih (fun q hq => hk q (List.mem_cons_of_mem _ hq))
      (fun q hq => ht q (List.mem_cons_of_mem _ hq))
      (fun q hq => h q (List.mem_cons_of_mem _ hq)) hn]
    rfl

end Reader

/-! ## lengths -/

theorem bytesOfParts_eq (l : List Tag) : bytesOfParts l = l.flatMap bytes := by
  induction l with
  | nil => rw [bytesOfParts, List.flatMap_nil]
  | cons t r ih => rw [bytesOfParts, List.flatMap_cons, ih]

theorem length_bytes_le_of_mem {l : List Tag} {u : Tag} (h : u ∈ l) :
    (bytes u).length ≤ (bytesOfParts l).length := by
  induction l with
  | nil => exact absurd h List.not_mem_nil
  | cons t r ih =>
    rw [bytesOfParts, List.length_append]
    rcases List.mem_cons.1 h with rfl | h
    · omega
    · have := ih h
      omega

theorem length_headBytes_pos (k : String) (t : Tag) : 0 < (headBytes k t).length := by
  cases t <;> exact Nat.succ_pos _

theorem length_le_bytesOfEntries (m : List (String × Tag)) :
    m.length ≤ (bytesOfEntries m).length := by
  induction m with
  | nil => exact Nat.zero_le _
  | cons p r ih =>
    obtain ⟨k, t⟩ := p
    have := length_headBytes_pos k t
    rw [bytesOfEntries, List.length_append, List.length_append, List.length_cons]
    omega

theorem length_bytes_le_of_mem_entries {m : List (String × Tag)} {p : String × Tag} (h : p ∈ m) :
    (bytes p.2).length ≤ (bytesOfEntries m).length := by
  induction m with
  | nil => exact absurd h List.not_mem_nil
  | cons q r ih =>
    obtain ⟨k, t⟩ := q
    rw [bytesOfEntries, List.length_append, List.length_append]
    rcases List.mem_cons.1 h with rfl | h
    · dsimp only
      omega
    · have := ih h
      omega

/-! ## tags -/

namespace Reader

theorem payload_succ (rounds levels : Nat) (k : Kind) :
    payload rounds (levels + 1) k.toByte =
      match k with
      | .endMark => return .endMark
      | .byte => return .byte (UInt8.ofNat (← word 1)).toInt8
      | .short => return .short (UInt16.ofNat (← word 2)).toInt16
      | .int => return .int (UInt32.ofNat (← word 4)).toInt32
      | .long => return .long (UInt64.ofNat (← word 8)).toInt64
      | .float => return .float (UInt32.ofNat (← word 4))
      | .double => return .double (UInt64.ofNat (← word 8))
      | .byteArray => do
        let n ← length
        let b ← bytes n
        return .ofBytes b
      | .text => return .text (← text)
      | .list => do
        let e ← byte
        let n ← length
        if e = 0 ∧ 0 < n then throw .listOfEndMarks
        let l ← repeated (payload rounds levels e) n #[]
        return .list l.toList
      | .compound => do
        let m ← entries (named (payload rounds levels)) rounds []
        return .compound m
      | .intArray => do
        let n ← length
        let a ← repeated (word 4) n #[]
        return .intArray (a.map fun w => (UInt32.ofNat w).toInt32)
      | .longArray => do
        let n ← length
        let a ← repeated (word 8) n #[]
        return .longArray (a.map fun w => (UInt64.ofNat w).toInt64) := by
  rw [payload, Kind.ofByte?_toByte]
  cases k <;> rfl

theorem toInt32_words (a : Array Int32) :
    ((#[] ++ (a.toList.map fun v : Int32 => v.toUInt32.toNat).toArray).map
      fun w => (UInt32.ofNat w).toInt32) = a := by
  apply Array.toList_inj.1
  rw [Array.empty_append, List.map_toArray, List.map_map]
  refine (List.map_congr_left fun v _ => ?_).trans (List.map_id a.toList)
  show (UInt32.ofNat v.toUInt32.toNat).toInt32 = v
  rw [UInt32.ofNat_toNat]
  rfl

theorem toInt64_words (a : Array Int64) :
    ((#[] ++ (a.toList.map fun v : Int64 => v.toUInt64.toNat).toArray).map
      fun w => (UInt64.ofNat w).toInt64) = a := by
  apply Array.toList_inj.1
  rw [Array.empty_append, List.map_toArray, List.map_map]
  refine (List.map_congr_left fun v _ => ?_).trans (List.map_id a.toList)
  show (UInt64.ofNat v.toUInt64.toNat).toInt64 = v
  rw [UInt64.ofNat_toNat]
  rfl

theorem toInt8_bytes (a : Array Int8) :
    Tag.ofBytes (a.toList.map Int8.toUInt8).toArray = .byteArray a := by
  rw [Tag.ofBytes]
  congr 1
  apply Array.toList_inj.1
  simp [Function.comp_def]

section

variable {rounds levels : Nat}

/-- A tag that is one number is read from the bytes of the number. -/
theorem number_bytes {w m : Nat} {k : Kind} {f : Nat → Tag}
    (hk : payload rounds (levels + 1) k.toByte = do return f (← word w)) (h : m < 256 ^ w)
    (s : List UInt8) :
    payload rounds (levels + 1) k.toByte (bigEndian w m ++ s) = .ok (f m, s) := by
  rw [hk, bind_of_ok (word_bigEndian h s)]
  rfl

theorem byteArray_bytes {a : Array Int8} (h : ¬Refused (.byteArray a)) (s : List UInt8) :
    payload rounds (levels + 1) Kind.byteArray.toByte (Tag.bytes (.byteArray a) ++ s) =
      .ok (.byteArray a, s) := by
  have hb : bytes a.size (a.toList.map Int8.toUInt8 ++ s) =
      .ok ((a.toList.map Int8.toUInt8).toArray, s) := by
    have hlen : a.size = (a.toList.map Int8.toUInt8).length := by
      rw [List.length_map, Array.length_toList]
    rw [hlen]
    exact bytes_append _ s
  rw [payload_succ, Tag.bytes, List.append_assoc]
  dsimp only
  rw [bind_of_ok (length_bytes (Nat.not_lt.1 h) _), bind_of_ok hb, toInt8_bytes]
  rfl

theorem intArray_bytes {a : Array Int32} (h : ¬Refused (.intArray a)) (s : List UInt8) :
    payload rounds (levels + 1) Kind.intArray.toByte (Tag.bytes (.intArray a) ++ s) =
      .ok (.intArray a, s) := by
  have hitem : ∀ v ∈ a.toList, ∀ s, word 4 (bigEndian 4 v.toUInt32.toNat ++ s) =
      .ok (v.toUInt32.toNat, s) := fun v _ => word_bigEndian v.toUInt32.toNat_lt
  have hw := repeated_bytes hitem #[] s
  rw [Array.length_toList] at hw
  rw [payload_succ, Tag.bytes, List.append_assoc]
  dsimp only
  rw [bind_of_ok (length_bytes (Nat.not_lt.1 h) _), bind_of_ok hw, toInt32_words]
  rfl

theorem longArray_bytes {a : Array Int64} (h : ¬Refused (.longArray a)) (s : List UInt8) :
    payload rounds (levels + 1) Kind.longArray.toByte (Tag.bytes (.longArray a) ++ s) =
      .ok (.longArray a, s) := by
  have hitem : ∀ v ∈ a.toList, ∀ s, word 8 (bigEndian 8 v.toUInt64.toNat ++ s) =
      .ok (v.toUInt64.toNat, s) := fun v _ => word_bigEndian v.toUInt64.toNat_lt
  have hw := repeated_bytes hitem #[] s
  rw [Array.length_toList] at hw
  rw [payload_succ, Tag.bytes, List.append_assoc]
  dsimp only
  rw [bind_of_ok (length_bytes (Nat.not_lt.1 h) _), bind_of_ok hw, toInt64_words]
  rfl

/-- All elements of a list have the kind that the list names. -/
theorem list_bytes {l : List Tag} (hnot : ¬Refused (.list l)) (hne : ∀ u ∈ l, u ≠ .endMark)
    (h : ∀ u ∈ l, ∀ s, payload rounds levels u.typeId (Tag.bytes u ++ s) = .ok (sorted u, s))
    (s : List UInt8) :
    payload rounds (levels + 1) Kind.list.toByte (Tag.bytes (.list l) ++ s) =
      .ok (sorted (.list l), s) := by
  obtain ⟨hlen, hkinds⟩ := not_or.1 hnot
  have hitem : ∀ u ∈ l, ∀ s, payload rounds levels (elementKind l) (Tag.bytes u ++ s) =
      .ok (sorted u, s) := by
    intro u hu
    have hkind : elementKind l = u.typeId := by
      cases l with
      | nil => exact absurd hu List.not_mem_nil
      | cons v r =>
        have hvu : v.kind = u.kind := Decidable.byContradiction fun hne =>
          hkinds ⟨v, List.mem_cons_self, u, hu, hne⟩
        exact congrArg Kind.toByte hvu
    rw [hkind]
    exact h u hu
  have hguard : ¬(elementKind l = 0 ∧ 0 < l.length) := by
    rintro ⟨h0, hpos⟩
    cases l with
    | nil => exact absurd hpos (Nat.lt_irrefl 0)
    | cons v r => exact hne v List.mem_cons_self ((typeId_eq_zero_iff v).1 h0)
  rw [payload_succ, Tag.bytes, List.cons_append, List.append_assoc, bytesOfParts_eq, sorted_list]
  dsimp only
  rw [bind_of_ok (byte_cons _ _), bind_of_ok (length_bytes (Nat.not_lt.1 hlen) _), if_neg hguard,
    bind_of_ok (repeated_bytes hitem #[] s)]
  show Except.ok (Tag.list (#[] ++ (l.map sorted).toArray).toList, s) = _
  rw [Array.empty_append]

/-- The entries of a compound end at the end mark behind them. -/
theorem compound_bytes {m : List (String × Tag)} (hnot : ¬Refused (.compound m))
    (hne : ∀ p ∈ m, p.2 ≠ .endMark)
    (h : ∀ p ∈ m, ∀ s, payload rounds levels p.2.typeId (Tag.bytes p.2 ++ s) =
      .ok (sorted p.2, s)) (hr : m.length < rounds) (s : List UInt8) :
    payload rounds (levels + 1) Kind.compound.toByte (Tag.bytes (.compound m) ++ s) =
      .ok (sorted (.compound m), s) := by
  have hname : ∀ p ∈ m, p.1.utf8ByteSize ≤ 65535 := fun p hp =>
    Nat.not_lt.1 fun hlong => hnot ⟨p, hp, hne p hp, hlong⟩
  rw [payload_succ, Tag.bytes, List.append_assoc, List.singleton_append, sorted_compound]
  dsimp only
  rw [bind_of_ok (entries_bytes hname hne h hr [] s)]
  rfl

end

/-- **The bytes of a tag are read as the sorted tag**, and no more is taken. -/
theorem payload_bytes {t : Tag} (ht : Storable t) {levels : Nat} (hf : Fits levels t)
    {rounds : Nat} (hr : (Tag.bytes t).length ≤ rounds) (s : List UInt8) :
    payload rounds levels t.typeId (Tag.bytes t ++ s) = .ok (sorted t, s) := by
  induction t using induction_parts generalizing levels s with
  | step t ih =>
    obtain ⟨n, rfl⟩ : ∃ n, levels = n + 1 :=
      ⟨levels - 1, by have := (hf 0 t (.root t)).1; omega⟩
    obtain ⟨hnot, hparts⟩ := storable_iff.1 ht
    have hfits := fits_succ_iff.1 hf
    rw [typeId]
    cases t with
    | endMark =>
      rw [kind, payload_succ, Tag.bytes]
      simp only [sorted]
      rfl
    | byte v =>
      simp only [kind, Tag.bytes, sorted]
      rw [number_bytes (payload_succ rounds n .byte) v.toUInt8.toNat_lt, UInt8.ofNat_toNat]
      rfl
    | short v =>
      simp only [kind, Tag.bytes, sorted]
      rw [number_bytes (payload_succ rounds n .short) v.toUInt16.toNat_lt, UInt16.ofNat_toNat]
      rfl
    | int v =>
      simp only [kind, Tag.bytes, sorted]
      rw [number_bytes (payload_succ rounds n .int) v.toUInt32.toNat_lt, UInt32.ofNat_toNat]
      rfl
    | long v =>
      simp only [kind, Tag.bytes, sorted]
      rw [number_bytes (payload_succ rounds n .long) v.toUInt64.toNat_lt, UInt64.ofNat_toNat]
      rfl
    | float b =>
      simp only [kind, Tag.bytes, sorted]
      rw [number_bytes (payload_succ rounds n .float) b.toNat_lt, UInt32.ofNat_toNat]
    | double b =>
      simp only [kind, Tag.bytes, sorted]
      rw [number_bytes (payload_succ rounds n .double) b.toNat_lt, UInt64.ofNat_toNat]
    | text v =>
      rw [kind, payload_succ, Tag.bytes]
      simp only [sorted]
      rw [bind_of_ok (text_bytes (Nat.not_lt.1 hnot) s)]
      rfl
    | byteArray a =>
      simp only [sorted]
      exact byteArray_bytes hnot s
    | intArray a =>
      simp only [sorted]
      exact intArray_bytes hnot s
    | longArray a =>
      simp only [sorted]
      exact longArray_bytes hnot s
    | list l =>
      rw [Tag.bytes, List.length_cons, List.length_append] at hr
      refine list_bytes hnot (fun u hu => (hfits u hu).1) (fun u hu => ?_) s
      have hle := length_bytes_le_of_mem hu
      exact ih u hu (hparts u hu) (hfits u hu).2 (by omega)
    | compound m =>
      rw [Tag.bytes, List.length_append, List.length_singleton] at hr
      have hmem : ∀ p ∈ m, p.2 ∈ (Tag.compound m).parts := fun p hp => List.mem_map_of_mem hp
      have hlen := length_le_bytesOfEntries m
      refine compound_bytes hnot (fun p hp => (hfits p.2 (hmem p hp)).1) (fun p hp => ?_)
        (by omega) s
      have hle := length_bytes_le_of_mem_entries hp
      exact ih p.2 (hmem p hp) (hparts p.2 (hmem p hp)) (hfits p.2 (hmem p hp)).2 (by omega)

end Reader

/-- **The bytes of a named tag are read as its name and the sorted tag.** -/
theorem read_namedBytes {name : String} {t : Tag} (ht : t ≠ .endMark)
    (hn : name.utf8ByteSize ≤ 65535) (hs : Storable t) (hf : Fits (maxNesting + 1) t)
    (s : List UInt8) : read (namedBytes name t ++ s) = .ok ((name, sorted t), s) := by
  have hr : (bytes t).length ≤ (namedBytes name t ++ s).length := by
    rw [namedBytes, List.length_append, List.length_append]
    omega
  have hp := Reader.payload_bytes hs hf hr s
  have hnamed : Reader.named (Reader.payload (namedBytes name t ++ s).length (maxNesting + 1))
      (namedBytes name t ++ s) = .ok (some (name, sorted t), s) := by
    have h := Reader.named_bytes hn ht hp
    rwa [← List.append_assoc] at h
  rw [read, hnamed]
  rfl

/-- An end mark has no name to be read. -/
theorem read_endMark (name : String) (s : List UInt8) :
    read (namedBytes name .endMark ++ s) = .ok (("", .endMark), s) := by
  have h : namedBytes name .endMark ++ s = 0 :: s := by
    rw [namedBytes, headBytes, bytes]
    rfl
  rw [h, read, Reader.named_endMark]
  rfl

end Tag

end Flattening
