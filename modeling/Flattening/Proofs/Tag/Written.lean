import Flattening.Proofs.Tag.Nodes

/-!
# The bytes of a tag

What a tag is in a file, said without a word on how it is written: `bytes` for its payload,
`namedBytes` with its kind and name in front.

* `pushPayload_eq_ok`       a tag of which no node is refused is written, and these are its bytes;
* `storable_of_pushPayload` a tag that is written has no such node;
* `write_eq_ok_iff`         so the writer fails exactly at a refused node or name.
-/

namespace Flattening.Tag

/-! ## the bytes -/

def textBytes (s : String) : List UInt8 := bigEndian 2 s.utf8ByteSize ++ s.toUTF8.data.toList

/-- kind and name; an end mark has no name -/
def headBytes (name : String) (t : Tag) : List UInt8 :=
  match t with
  | .endMark => [0]
  | t => t.typeId :: textBytes name

mutual

/-- the payload of a tag -/
def bytes : Tag → List UInt8
  | .endMark => []
  | .byte v => bigEndian 1 v.toUInt8.toNat
  | .short v => bigEndian 2 v.toUInt16.toNat
  | .int v => bigEndian 4 v.toUInt32.toNat
  | .long v => bigEndian 8 v.toUInt64.toNat
  | .float b => bigEndian 4 b.toNat
  | .double b => bigEndian 8 b.toNat
  | .byteArray a => bigEndian 4 a.size ++ a.toList.map Int8.toUInt8
  | .text s => textBytes s
  | .list l => elementKind l :: (bigEndian 4 l.length ++ bytesOfParts l)
  | .compound m => bytesOfEntries m ++ [0]
  | .intArray a => bigEndian 4 a.size ++ a.toList.flatMap fun v => bigEndian 4 v.toUInt32.toNat
  | .longArray a => bigEndian 4 a.size ++ a.toList.flatMap fun v => bigEndian 8 v.toUInt64.toNat

def bytesOfParts : List Tag → List UInt8
  | [] => []
  | t :: r => bytes t ++ bytesOfParts r

def bytesOfEntries : List (String × Tag) → List UInt8
  | [] => []
  | (k, t) :: r => headBytes k t ++ (bytes t ++ bytesOfEntries r)

end

theorem bytesOfParts_cons (t : Tag) (r : List Tag) :
    bytesOfParts (t :: r) = bytes t ++ bytesOfParts r := by rw [bytesOfParts]

theorem bytesOfEntries_cons (k : String) (t : Tag) (r : List (String × Tag)) :
    bytesOfEntries ((k, t) :: r) = headBytes k t ++ (bytes t ++ bytesOfEntries r) := by
  rw [bytesOfEntries]

def namedBytes (name : String) (t : Tag) : List UInt8 := headBytes name t ++ bytes t

/-! ## leaves -/

theorem pushText_eq_ok {s : String} (h : s.utf8ByteSize ≤ 65535) (out : Array UInt8) :
    ∃ out', pushText s out = .ok out' ∧ out'.toList = out.toList ++ textBytes s := by
  refine ⟨pushWord 2 s.utf8ByteSize out ++ s.toUTF8.data, ?_, ?_⟩
  · rw [pushText]
    exact if_pos h
  · rw [Array.toList_append, pushWord_toList, List.append_assoc]
    rfl

theorem pushLength_eq_ok {n : Nat} (h : n ≤ 2 ^ 31 - 1) (out : Array UInt8) :
    ∃ out', pushLength n out = .ok out' ∧ out'.toList = out.toList ++ bigEndian 4 n := by
  have h' : n ≤ 0x7fffffff := h
  refine ⟨pushWord 4 n out, ?_, pushWord_toList 4 n out⟩
  rw [pushLength, if_pos h']

/-- Elements written one after the other. -/
theorem toList_foldl {α : Type} {f : Array UInt8 → α → Array UInt8} {g : α → List UInt8}
    (h : ∀ out a, (f out a).toList = out.toList ++ g a) (a : Array α) (out : Array UInt8) :
    (a.foldl f out).toList = out.toList ++ a.toList.flatMap g := by
  rw [← Array.foldl_toList]
  induction a.toList generalizing out with
  | nil => rw [List.foldl_nil, List.flatMap_nil, List.append_nil]
  | cons v l ih => rw [List.foldl_cons, ih, h, List.flatMap_cons, List.append_assoc]

theorem strangeKind?_eq_none_iff (l : List Tag) :
    strangeKind? l = none ↔ ∀ u ∈ l, ∀ v ∈ l, u.kind = v.kind := by
  have hid : ∀ u v : Tag, u.typeId = v.typeId ↔ u.kind = v.kind := fun u v =>
    ⟨Kind.toByte_inj, congrArg Kind.toByte⟩
  rw [strangeKind?, Option.map_eq_none_iff, List.find?_eq_none]
  cases l with
  | nil =>
    exact ⟨fun _ u hu => absurd hu List.not_mem_nil,
      fun _ u hu => absurd hu List.not_mem_nil⟩
  | cons t r =>
    have helem : elementKind (t :: r) = t.typeId := rfl
    constructor
    · intro h u hu v hv
      have hu' : u.typeId = t.typeId := by simpa [helem] using h u hu
      have hv' : v.typeId = t.typeId := by simpa [helem] using h v hv
      exact (hid u v).1 (hu'.trans hv'.symm)
    · intro h u hu
      have hu' := (hid u t).2 (h u hu t List.mem_cons_self)
      simp [helem, hu']

/-! ## writing -/

theorem pushName_eq_ok {name : String} {t : Tag} (h : t ≠ .endMark → name.utf8ByteSize ≤ 65535)
    (out : Array UInt8) :
    ∃ out', pushName name t out = .ok out' ∧ out'.toList = out.toList ++ headBytes name t := by
  cases t with
  | endMark => exact ⟨out.push 0, rfl, by rw [Array.toList_push]; rfl⟩
  | _ =>
    obtain ⟨out', ho, hl⟩ := pushText_eq_ok (h nofun) (out.push (typeId _))
    refine ⟨out', ho, ?_⟩
    rw [hl, Array.toList_push, List.append_assoc]
    rfl

theorem bind_eq_ok {ε α β : Type} {x : Except ε α} {f : α → Except ε β} {b : β} :
    (x >>= f) = .ok b ↔ ∃ a, x = .ok a ∧ f a = .ok b := by
  cases x with
  | ok a =>
    constructor
    · intro h
      exact ⟨a, rfl, h⟩
    · rintro ⟨a', h, h'⟩
      cases h
      exact h'
  | error e =>
    constructor
    · intro h
      cases h
    · rintro ⟨a, h, -⟩
      cases h

theorem pushParts_eq_ok {l : List Tag}
    (h : ∀ u ∈ l, ∀ out, ∃ out', pushPayload u out = .ok out' ∧
      out'.toList = out.toList ++ bytes u) (out : Array UInt8) :
    ∃ out', pushParts l out = .ok out' ∧ out'.toList = out.toList ++ bytesOfParts l := by
  induction l generalizing out with
  | nil => exact ⟨out, by rw [pushParts], by rw [bytesOfParts, List.append_nil]⟩
  | cons t r ih =>
    obtain ⟨mid, hmid, hl⟩ := h t List.mem_cons_self out
    obtain ⟨out', ho, hl'⟩ := ih (fun u hu => h u (List.mem_cons_of_mem t hu)) mid
    refine ⟨out', ?_, ?_⟩
    · rw [pushParts, hmid]
      exact ho
    · rw [hl', hl, bytesOfParts_cons, List.append_assoc]

theorem pushEntries_eq_ok {m : List (String × Tag)}
    (hn : ∀ p ∈ m, p.2 ≠ .endMark → p.1.utf8ByteSize ≤ 65535)
    (h : ∀ p ∈ m, ∀ out, ∃ out', pushPayload p.2 out = .ok out' ∧
      out'.toList = out.toList ++ bytes p.2) (out : Array UInt8) :
    ∃ out', pushEntries m out = .ok out' ∧ out'.toList = out.toList ++ bytesOfEntries m := by
  induction m generalizing out with
  | nil => exact ⟨out, by rw [pushEntries], by rw [bytesOfEntries, List.append_nil]⟩
  | cons p r ih =>
    obtain ⟨k, t⟩ := p
    obtain ⟨out₁, h₁, hl₁⟩ := pushName_eq_ok (hn (k, t) List.mem_cons_self) out
    obtain ⟨out₂, h₂, hl₂⟩ := h (k, t) List.mem_cons_self out₁
    obtain ⟨out', ho, hl'⟩ := ih (fun q hq => hn q (List.mem_cons_of_mem _ hq))
      (fun q hq => h q (List.mem_cons_of_mem _ hq)) out₂
    refine ⟨out', ?_, ?_⟩
    · rw [pushEntries, h₁]
      dsimp only
      rw [h₂]
      exact ho
    · rw [hl', hl₂, hl₁, bytesOfEntries_cons, List.append_assoc, List.append_assoc]

/-- **A tag of which no node is refused is written**, and its bytes follow those so far. -/
theorem pushPayload_eq_ok {t : Tag} (h : Storable t) (out : Array UInt8) :
    ∃ out', pushPayload t out = .ok out' ∧ out'.toList = out.toList ++ bytes t := by
  induction t using induction_parts generalizing out with
  | step t ih =>
    obtain ⟨hr, hparts⟩ := storable_iff.1 h
    have hall : ∀ u ∈ t.parts, ∀ out, ∃ out', pushPayload u out = .ok out' ∧
        out'.toList = out.toList ++ bytes u := fun u hu => ih u hu (hparts u hu)
    cases t with
    | endMark => exact ⟨out, by rw [pushPayload], by rw [bytes, List.append_nil]⟩
    | byte | short | int | long | float | double =>
      exact ⟨_, by rw [pushPayload], by rw [pushWord_toList, bytes]⟩
    | text s =>
      obtain ⟨out', ho, hl⟩ := pushText_eq_ok (Nat.not_lt.1 hr) out
      exact ⟨out', by rw [pushPayload, ho], by rw [hl, bytes]⟩
    | byteArray a =>
      obtain ⟨mid, hmid, hl⟩ := pushLength_eq_ok (Nat.not_lt.1 hr) out
      refine ⟨a.foldl (fun o v => o.push v.toUInt8) mid, ?_, ?_⟩
      · rw [pushPayload, hmid]
        rfl
      · have hpush : ∀ (out : Array UInt8) (v : Int8),
            (out.push v.toUInt8).toList = out.toList ++ [v.toUInt8] := fun _ _ => Array.toList_push
        rw [toList_foldl hpush, hl, bytes, List.map_eq_flatMap, List.append_assoc]
    | intArray a =>
      obtain ⟨mid, hmid, hl⟩ := pushLength_eq_ok (Nat.not_lt.1 hr) out
      refine ⟨a.foldl (fun o v => pushWord 4 v.toUInt32.toNat o) mid, ?_, ?_⟩
      · rw [pushPayload, hmid]
        rfl
      · rw [toList_foldl fun out (v : Int32) => pushWord_toList 4 v.toUInt32.toNat out, hl, bytes,
          List.append_assoc]
    | longArray a =>
      obtain ⟨mid, hmid, hl⟩ := pushLength_eq_ok (Nat.not_lt.1 hr) out
      refine ⟨a.foldl (fun o v => pushWord 8 v.toUInt64.toNat o) mid, ?_, ?_⟩
      · rw [pushPayload, hmid]
        rfl
      · rw [toList_foldl fun out (v : Int64) => pushWord_toList 8 v.toUInt64.toNat out, hl, bytes,
          List.append_assoc]
    | list l =>
      obtain ⟨hlen, hkinds⟩ := not_or.1 hr
      have hstrange : strangeKind? l = none := by
        rw [strangeKind?_eq_none_iff]
        intro u hu v hv
        exact Decidable.byContradiction fun hne => hkinds ⟨u, hu, v, hv, hne⟩
      obtain ⟨mid, hmid, hl⟩ := pushLength_eq_ok (Nat.not_lt.1 hlen) (out.push (elementKind l))
      obtain ⟨out', ho, hl'⟩ := pushParts_eq_ok hall mid
      refine ⟨out', ?_, ?_⟩
      · rw [pushPayload, hstrange]
        dsimp only
        rw [hmid]
        exact ho
      · rw [hl', hl, Array.toList_push, bytes, List.append_assoc, List.append_assoc]
        rfl
    | compound m =>
      have hnames : ∀ p ∈ m, p.2 ≠ .endMark → p.1.utf8ByteSize ≤ 65535 := fun p hp hne =>
        Nat.not_lt.1 fun hlong => hr ⟨p, hp, hne, hlong⟩
      have hvalues : ∀ p ∈ m, ∀ out, ∃ out', pushPayload p.2 out = .ok out' ∧
          out'.toList = out.toList ++ bytes p.2 := fun p hp =>
        hall p.2 (List.mem_map_of_mem hp)
      obtain ⟨mid, hmid, hl⟩ := pushEntries_eq_ok hnames hvalues out
      refine ⟨mid.push 0, ?_, ?_⟩
      · rw [pushPayload, hmid]
        rfl
      · rw [Array.toList_push, hl, bytes, List.append_assoc]

/-! ## what was written -/

theorem le_of_pushText {s : String} {out out' : Array UInt8} (h : pushText s out = .ok out') :
    s.utf8ByteSize ≤ 65535 := by
  refine Nat.not_lt.1 fun hlong => ?_
  rw [(pushText_error_iff s out _).2 ⟨hlong, rfl⟩] at h
  cases h

theorem le_of_pushLength {n : Nat} {out out' : Array UInt8} (h : pushLength n out = .ok out') :
    n ≤ 2 ^ 31 - 1 := by
  refine Nat.not_lt.1 fun hlong => ?_
  rw [(pushLength_error_iff n out _).2 ⟨hlong, rfl⟩] at h
  cases h

theorem le_of_pushName {name : String} {t : Tag} {out out' : Array UInt8}
    (h : pushName name t out = .ok out') (ht : t ≠ .endMark) : name.utf8ByteSize ≤ 65535 := by
  cases t with
  | endMark => exact absurd rfl ht
  | _ => exact le_of_pushText h

theorem exists_pushPayload_of_parts {l : List Tag} {out out' : Array UInt8}
    (h : pushParts l out = .ok out') : ∀ u ∈ l, ∃ o o', pushPayload u o = .ok o' := by
  induction l generalizing out with
  | nil => exact fun u hu => absurd hu List.not_mem_nil
  | cons t r ih =>
    rw [pushParts] at h
    cases ht : pushPayload t out with
    | error e =>
      rw [ht] at h
      cases h
    | ok mid =>
      rw [ht] at h
      intro u hu
      rcases List.mem_cons.1 hu with rfl | hu
      · exact ⟨out, mid, ht⟩
      · exact ih h u hu

theorem exists_pushPayload_of_entries {m : List (String × Tag)} {out out' : Array UInt8}
    (h : pushEntries m out = .ok out') : ∀ p ∈ m,
      (p.2 ≠ .endMark → p.1.utf8ByteSize ≤ 65535) ∧ ∃ o o', pushPayload p.2 o = .ok o' := by
  induction m generalizing out with
  | nil => exact fun p hp => absurd hp List.not_mem_nil
  | cons q r ih =>
    obtain ⟨k, t⟩ := q
    rw [pushEntries] at h
    cases hk : pushName k t out with
    | error e =>
      rw [hk] at h
      cases h
    | ok out₁ =>
      rw [hk] at h
      dsimp only at h
      cases ht : pushPayload t out₁ with
      | error e =>
        rw [ht] at h
        cases h
      | ok out₂ =>
        rw [ht] at h
        intro p hp
        rcases List.mem_cons.1 hp with rfl | hp
        · exact ⟨le_of_pushName hk, out₁, out₂, ht⟩
        · exact ih h p hp

/-- **A tag that is written has no refused node.** -/
theorem storable_of_pushPayload {t : Tag} {out out' : Array UInt8}
    (h : pushPayload t out = .ok out') : Storable t := by
  induction t using induction_parts generalizing out out' with
  | step t ih =>
    rw [storable_iff]
    cases t with
    | endMark | byte | short | int | long | float | double =>
      exact ⟨id, fun u hu => absurd hu List.not_mem_nil⟩
    | text s =>
      rw [pushPayload] at h
      exact ⟨Nat.not_lt.2 (le_of_pushText h), fun u hu => absurd hu List.not_mem_nil⟩
    | byteArray a | intArray a | longArray a =>
      rw [pushPayload] at h
      obtain ⟨mid, hmid, -⟩ := bind_eq_ok.1 h
      exact ⟨Nat.not_lt.2 (le_of_pushLength hmid), fun u hu => absurd hu List.not_mem_nil⟩
    | list l =>
      rw [pushPayload] at h
      cases hs : strangeKind? l with
      | some k =>
        rw [hs] at h
        cases h
      | none =>
        rw [hs] at h
        obtain ⟨mid, hmid, hparts⟩ := bind_eq_ok.1 h
        refine ⟨?_, fun u hu => ?_⟩
        · rintro (hlong | ⟨u, hu, v, hv, hne⟩)
          · exact absurd hlong (Nat.not_lt.2 (le_of_pushLength hmid))
          · exact hne ((strangeKind?_eq_none_iff l).1 hs u hu v hv)
        · obtain ⟨o, o', ho⟩ := exists_pushPayload_of_parts hparts u hu
          exact ih u hu ho
    | compound m =>
      rw [pushPayload] at h
      obtain ⟨mid, hmid, -⟩ := bind_eq_ok.1 h
      have hall := exists_pushPayload_of_entries hmid
      refine ⟨?_, fun u hu => ?_⟩
      · rintro ⟨p, hp, hne, hlong⟩
        exact absurd hlong (Nat.not_lt.2 ((hall p hp).1 hne))
      · obtain ⟨p, hp, rfl⟩ := List.mem_map.1 hu
        obtain ⟨o, o', ho⟩ := (hall p hp).2
        exact ih p.2 hu ho

/-- **When a named tag is written, and as what.** -/
theorem write_eq_ok_iff {name : String} {t : Tag} {out : Array UInt8} :
    write name t = .ok out ↔
      ((t ≠ .endMark → name.utf8ByteSize ≤ 65535) ∧ Storable t) ∧
        out.toList = namedBytes name t := by
  have hok : (t ≠ .endMark → name.utf8ByteSize ≤ 65535) → Storable t →
      ∃ out', write name t = .ok out' ∧ out'.toList = namedBytes name t := by
    intro hn ht
    obtain ⟨mid, hmid, hl⟩ := pushName_eq_ok hn #[]
    obtain ⟨out', ho, hl'⟩ := pushPayload_eq_ok ht mid
    refine ⟨out', bind_eq_ok.2 ⟨mid, hmid, ho⟩, ?_⟩
    rw [hl', hl]
    rfl
  constructor
  · intro h
    obtain ⟨mid, hmid, ho⟩ := bind_eq_ok.1 h
    have hn : t ≠ .endMark → name.utf8ByteSize ≤ 65535 := le_of_pushName hmid
    have ht := storable_of_pushPayload ho
    obtain ⟨out', ho', hl⟩ := hok hn ht
    rw [h, Except.ok.injEq] at ho'
    rw [ho']
    exact ⟨⟨hn, ht⟩, hl⟩
  · rintro ⟨⟨hn, ht⟩, hl⟩
    obtain ⟨out', ho', hl'⟩ := hok hn ht
    rw [ho', Array.toList_inj.1 (hl'.trans hl.symm)]

end Flattening.Tag
