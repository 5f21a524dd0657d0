import Flattening.Proofs.Tag.Rounds

/-!
# Input that is cut short

No reader looks at bytes that it does not take, and none judges bytes before all of them are
there.  So bytes behind the input change nothing, and when the input is cut anywhere the reader
asks for the bytes that are missing.

* `Incremental`        what a reader does when bytes are put behind its input;
* `Incremental.bind`, `Incremental.repeated`, `Incremental.entries`   it is kept by combining;
* `incremental_payload`   the reader of tags is such a reader;
* `read_append`, `read_of_append`   what a front of the input and the whole say of each other;
* `read_cut`           a tag that is cut short is reported as truncated, and a longer input
  gives the same tag.
-/

namespace Flattening.Tag

/-- The error says that bytes are missing. -/
def ReadError.isTruncated : ReadError → Bool
  | .truncated _ => true
  | _ => false

theorem ReadError.exists_missing {e : ReadError} (h : e.isTruncated = true) :
    ∃ k, e = .truncated k := by
  cases e with
  | truncated k => exact ⟨k, rfl⟩
  | _ => cases h

namespace Reader

variable {α β : Type}

theorem bind_eq_error {x : Reader α} {f : α → Reader β} {s : List UInt8} {e : ReadError} :
    (x >>= f) s = .error e ↔
      x s = .error e ∨ ∃ a mid, x s = .ok (a, mid) ∧ f a mid = .error e := by
  show StateT.bind x f s = _ ↔ _
  unfold StateT.bind
  cases hx : x s with
  | ok p =>
    obtain ⟨a, mid⟩ := p
    constructor
    · intro h
      exact .inr ⟨a, mid, rfl, h⟩
    · rintro (h | ⟨a', mid', h, h'⟩)
      · cases h
      · cases h
        exact h'
  | error e' =>
    constructor
    · intro h
      cases h
      exact .inl rfl
    · rintro (h | ⟨a', mid', h, -⟩)
      · cases h
        rfl
      · cases h

/-- What a reader does when bytes are put behind its input: what it has read stays, and so does
what it has refused.  When bytes are missing, it takes at least as many of the new ones as it
has asked for. -/
structure Incremental (x : Reader α) : Prop where
  shrinks : ∀ {s a r}, x s = .ok (a, r) → r.length ≤ s.length
  ok : ∀ {s a r}, x s = .ok (a, r) → ∀ s', x (s ++ s') = .ok (a, r ++ s')
  refused : ∀ {s e}, x s = .error e → e.isTruncated = false → ∀ s', x (s ++ s') = .error e
  truncated : ∀ {s k s' a r}, x s = .error (.truncated k) → x (s ++ s') = .ok (a, r) →
    0 < k ∧ r.length + k ≤ s'.length

namespace Incremental

/-- Of what is read from a longer input the front is enough, or more is asked for. -/
theorem cut {x : Reader α} (hx : Incremental x) {s s' r : List UInt8} {a : α}
    (h : x (s ++ s') = .ok (a, r)) :
    (∃ r', x s = .ok (a, r') ∧ r = r' ++ s') ∨
      ∃ k, x s = .error (.truncated k) ∧ 0 < k ∧ r.length + k ≤ s'.length := by
  cases hs : x s with
  | ok q =>
    obtain ⟨b, r'⟩ := q
    cases h.symm.trans (hx.ok hs s')
    exact .inl ⟨r', rfl, rfl⟩
  | error e =>
    cases he : e.isTruncated with
    | false => cases h.symm.trans (hx.refused hs he s')
    | true =>
      obtain ⟨k, rfl⟩ := e.exists_missing he
      exact .inr ⟨k, rfl, hx.truncated hs h⟩

/-! ## combining -/

theorem pure (a : α) : Incremental (Pure.pure a : Reader α) where
  shrinks h := by
    cases pure_eq_ok.1 h
    exact Nat.le_refl _
  ok h s' := by
    cases pure_eq_ok.1 h
    rfl
  refused h := nomatch h
  truncated h := nomatch h

theorem throw {e : ReadError} (he : e.isTruncated = false) :
    Incremental (MonadExcept.throw e : Reader α) where
  shrinks h := absurd h throw_ne_ok
  ok h := absurd h throw_ne_ok
  refused h _ s' := by
    cases h
    rfl
  truncated h := by
    cases h
    cases he

theorem bind {x : Reader α} {f : α → Reader β} (hx : Incremental x)
    (hf : ∀ a, Incremental (f a)) : Incremental (x >>= f) where
  shrinks h := by
    obtain ⟨a, mid, ha, h⟩ := bind_eq_ok.1 h
    exact Nat.le_trans ((hf a).shrinks h) (hx.shrinks ha)
  ok h s' := by
    obtain ⟨a, mid, ha, h⟩ := bind_eq_ok.1 h
    exact bind_eq_ok.2 ⟨a, mid ++ s', hx.ok ha s', (hf a).ok h s'⟩
  refused h he s' := by
    rcases bind_eq_error.1 h with h | ⟨a, mid, ha, h⟩
    · exact bind_eq_error.2 (.inl (hx.refused h he s'))
    · exact bind_eq_error.2 (.inr ⟨a, mid ++ s', hx.ok ha s', (hf a).refused h he s'⟩)
  truncated h h' := by
    obtain ⟨a, mid, ha, h'⟩ := bind_eq_ok.1 h'
    rcases bind_eq_error.1 h with h | ⟨b, mid', hb, h⟩
    · have hle := (hf a).shrinks h'
      obtain ⟨hpos, hmid⟩ := hx.truncated h ha
      exact ⟨hpos, by omega⟩
    · cases ha.symm.trans (hx.ok hb _)
      exact (hf a).truncated h h'

theorem repeated {item : Reader α} (h : Incremental item) (n : Nat) (out : Array α) :
    Incremental (Reader.repeated item n out) := by
  induction n generalizing out with
  | zero => exact pure out
  | succ n ih =>
    have hsucc : Reader.repeated item (n + 1) out =
        item >>= fun a => Reader.repeated item n (out.push a) := by
      funext s
      show _ = StateT.bind item _ s
      rw [repeated_succ, StateT.bind]
      cases item s with
      | error e => rfl
      | ok q => rfl
    rw [hsucc]
    exact h.bind fun a => ih (out.push a)

theorem entries {entry : Reader (Option (String × Tag))} (h : Incremental entry) (rounds : Nat)
    (out : Entries String Tag) : Incremental (Reader.entries entry rounds out) := by
  induction rounds generalizing out with
  | zero =>
    refine ⟨nofun, nofun, fun he hk => ?_, nofun⟩
    cases he
    cases hk
  | succ n ih =>
    have hsucc : Reader.entries entry (n + 1) out = entry >>= fun o =>
        match o with
        | none => Pure.pure out
        | some p => Reader.entries entry n (Entries.insert p.1 p.2 out) := by
      funext s
      show _ = StateT.bind entry _ s
      rw [entries_succ, StateT.bind]
      cases entry s with
      | error e => rfl
      | ok q =>
        obtain ⟨o, mid⟩ := q
        cases o with
        | none => rfl
        | some p => rfl
    rw [hsucc]
    refine h.bind fun o => ?_
    cases o with
    | none => exact pure out
    | some p => exact ih _

/-! ## leaves -/

theorem takeWord_append {w so n : Nat} {s r : List UInt8} (h : takeWord w so s = some (n, r))
    (s' : List UInt8) : takeWord w so (s ++ s') = some (n, r ++ s') := by
  induction w generalizing so s with
  | zero =>
    rw [takeWord_zero, Option.some.injEq, Prod.mk.injEq] at h
    rw [takeWord_zero, h.1, h.2]
  | succ w ih =>
    cases s with
    | nil => cases h
    | cons b s => exact ih h

theorem length_lt_of_takeWord_eq_none {w so : Nat} {s : List UInt8}
    (h : takeWord w so s = none) : s.length < w := by
  induction w generalizing so s with
  | zero => cases h
  | succ w ih =>
    cases s with
    | nil => exact Nat.succ_pos w
    | cons b s => exact Nat.succ_lt_succ (ih h)

theorem word_eq_error {w : Nat} {s : List UInt8} {e : ReadError} (h : Reader.word w s = .error e) :
    s.length < w ∧ e = .truncated (w - s.length) := by
  unfold Reader.word at h
  cases hw : takeWord w 0 s with
  | none =>
    rw [hw] at h
    exact ⟨length_lt_of_takeWord_eq_none hw, (Except.error.inj h).symm⟩
  | some r =>
    rw [hw] at h
    cases h

theorem word (w : Nat) : Incremental (Reader.word w) := by
  have htaken : ∀ {s n r}, Reader.word w s = .ok (n, r) → s.length = w + r.length := by
    intro s n r h
    rw [bigEndian_of_word h, List.length_append, length_bigEndian]
  refine ⟨fun h => ?_, fun h s' => ?_, fun h he => ?_, fun h h' => ?_⟩
  · have hlen := htaken h
    omega
  · exact word_eq_ok_iff.2 (takeWord_append (word_eq_ok_iff.1 h) s')
  · obtain ⟨-, rfl⟩ := word_eq_error h
    cases he
  · obtain ⟨hlt, hk⟩ := word_eq_error h
    have hlen := htaken h'
    rw [List.length_append] at hlen
    have hk := ReadError.truncated.inj hk
    omega

theorem byte : Incremental Reader.byte := (word 1).bind fun _ => pure _

theorem length : Incremental Reader.length := by
  refine (word 4).bind fun n => ?_
  split
  · exact pure n
  · exact throw rfl

theorem takeBytes (n : Nat) (out : Array UInt8) :
    Incremental (Reader.takeBytes n out : Reader (Array UInt8)) := by
  induction n generalizing out with
  | zero => exact pure out
  | succ n ih =>
    refine ⟨fun {s a r} h => ?_, fun {s a r} h s' => ?_, fun {s e} h he s' => ?_,
      fun {s k s' a r} h h' => ?_⟩
    · cases s with
      | nil => cases h
      | cons b s => exact Nat.le_succ_of_le ((ih _).shrinks h)
    · cases s with
      | nil => cases h
      | cons b s => exact (ih _).ok h s'
    · cases s with
      | nil =>
        cases h
        cases he
      | cons b s => exact (ih _).refused h he s'
    · cases s with
      | nil =>
        cases h
        have htaken := congrArg List.length (append_of_takeBytes h')
        have hsize := size_takeBytes h'
        simp only [List.nil_append, List.length_append, Array.length_toList] at htaken
        omega
      | cons b s => exact (ih _).truncated h h'

theorem text : Incremental Reader.text := by
  refine (word 2).bind fun n => .bind (takeBytes n #[]) fun b => ?_
  split
  · exact pure _
  · exact throw rfl

/-! ## tags -/

theorem named {payload : UInt8 → Reader Tag} (h : ∀ b, Incremental (payload b)) :
    Incremental (Reader.named payload) := by
  refine byte.bind fun b => ?_
  split
  · exact pure none
  · exact text.bind fun name => (h b).bind fun t => pure _

end Incremental

/-- **The reader of tags takes what it is given as it comes.** -/
theorem incremental_payload (rounds levels : Nat) (b : UInt8) :
    Incremental (payload rounds levels b) := by
  induction levels generalizing b with
  | zero => exact .throw rfl
  | succ levels ih =>
    cases hk : Kind.ofByte? b with
    | none =>
      rw [payload, hk]
      exact .throw rfl
    | some k =>
    obtain rfl := Kind.eq_toByte_of_ofByte? hk
    rw [payload_succ]
    cases k with
    | endMark => exact .pure _
    | byte | short | int | long | float | double => exact (Incremental.word _).bind fun _ => .pure _
    | byteArray =>
      exact Incremental.length.bind fun n => (Incremental.takeBytes n #[]).bind fun _ => .pure _
    | text => exact Incremental.text.bind fun _ => .pure _
    | list =>
      refine Incremental.byte.bind fun e => Incremental.length.bind fun n => ?_
      split
      · exact Incremental.bind (.throw rfl) fun _ => ((ih e).repeated n #[]).bind fun _ => .pure _
      · exact ((ih e).repeated n #[]).bind fun _ => .pure _
    | compound => exact ((Incremental.named ih).entries rounds []).bind fun _ => .pure _
    | intArray | longArray =>
      exact Incremental.length.bind fun n =>
        ((Incremental.word _).repeated n #[]).bind fun _ => .pure _

/-- the reader of a named tag, with a bound for the rounds of its compounds -/
def root (rounds : Nat) : Reader (String × Tag) :=
  named (payload rounds (maxNesting + 1)) >>= fun o =>
    match o with
    | some r => Pure.pure r
    | none => Pure.pure ("", .endMark)

theorem incremental_root (rounds : Nat) : Incremental (root rounds) := by
  refine (Incremental.named fun b => incremental_payload rounds (maxNesting + 1) b).bind fun o => ?_
  cases o with
  | none => exact .pure _
  | some r => exact .pure r

theorem read_eq_root {s : List UInt8} {rounds : Nat} (h : s.length ≤ rounds) :
    read s = root rounds s := by
  have hroot : root rounds s = root s.length s :=
    bind_congr_of_ok (named_rounds h (Nat.le_refl _) _) fun _ _ _ => rfl
  rw [hroot, read, root]
  show _ = StateT.bind _ _ s
  unfold StateT.bind
  cases named (payload s.length (maxNesting + 1)) s with
  | error e => rfl
  | ok q =>
    obtain ⟨o, mid⟩ := q
    cases o with
    | none => rfl
    | some r => rfl

end Reader

/-- Bytes behind the input stay behind it. -/
theorem read_append {s rest : List UInt8} {r : String × Tag} (h : read s = .ok (r, rest))
    (s' : List UInt8) : read (s ++ s') = .ok (r, rest ++ s') := by
  have hlen : s.length ≤ (s ++ s').length := (List.sublist_append_left s s').length_le
  rw [Reader.read_eq_root hlen] at h
  rw [Reader.read_eq_root (Nat.le_refl _)]
  exact (Reader.incremental_root _).ok h s'

/-- Of what is read from a longer input the front is enough, or more is asked for. -/
theorem read_of_append {s s' rest : List UInt8} {r : String × Tag}
    (h : read (s ++ s') = .ok (r, rest)) :
    (∃ rest', read s = .ok (r, rest') ∧ rest = rest' ++ s') ∨
      ∃ k, read s = .error (.truncated k) ∧ 0 < k ∧ rest.length + k ≤ s'.length := by
  have hlen : s.length ≤ (s ++ s').length := (List.sublist_append_left s s').length_le
  rw [Reader.read_eq_root (Nat.le_refl _)] at h
  rw [Reader.read_eq_root hlen]
  exact (Reader.incremental_root _).cut h

/-- **Input that is cut short is reported as such.**  Let a tag be read from the front of `s`.
Of fewer bytes than it takes, any number, reading asks for more, and for no more than there are;
and with anything behind the bytes that it takes, the same is read and just they are taken. -/
theorem read_cut {s rest : List UInt8} {r : String × Tag} (h : read s = .ok (r, rest)) :
    ∃ front, s = front ++ rest ∧
      (∀ m < front.length, ∃ k, 0 < k ∧ m + k ≤ front.length ∧
        read (s.take m) = .error (.truncated k)) ∧
      ∀ s', read (front ++ s') = .ok (r, s') := by
  obtain ⟨front, rfl, -⟩ := exists_spelling_of_read (n := r.1) (t := r.2) h
  -- what stands behind the bytes taken has no part in it
  have hfront : read front = .ok (r, []) := by
    rcases read_of_append h with ⟨rest', hr, hrest⟩ | ⟨k, -, hpos, hle⟩
    · rw [hr, List.self_eq_append_left.1 hrest]
    · omega
  refine ⟨front, rfl, fun m hm => ?_, fun s' => ?_⟩
  · rw [List.take_append_of_le_length (Nat.le_of_lt hm)]
    rw [← List.take_append_drop m front] at hfront
    rcases read_of_append hfront with ⟨rest', -, hrest⟩ | ⟨k, hk, hpos, hle⟩
    · have hdrop := (List.append_eq_nil_iff.1 hrest.symm).2
      rw [List.drop_eq_nil_iff] at hdrop
      omega
    · rw [List.length_drop, List.length_nil] at hle
      exact ⟨k, hpos, by omega, hk⟩
  · rw [read_append hfront, List.nil_append]

/-- a compound of a list of two texts, with a byte behind it -/
def listedBytes : List UInt8 :=
  [10, 0, 0, 9, 0, 1, 97, 8, 0, 0, 0, 2, 0, 1, 98, 0, 0, 0, 7]

theorem read_cut_listed :
    read listedBytes = .ok (("", .compound [("a", .list [.text "b", .text ""])]), [7]) ∧
      ∃ front, listedBytes = front ++ [7] ∧
        (∀ m < front.length, ∃ k, 0 < k ∧ m + k ≤ front.length ∧
          read (listedBytes.take m) = .error (.truncated k)) ∧
        ∀ s', read (front ++ s') =
          .ok (("", .compound [("a", .list [.text "b", .text ""])]), s') := by
  have h : read listedBytes =
      .ok (("", .compound [("a", .list [.text "b", .text ""])]), [7]) := by
    rfl
  exact ⟨h, read_cut h⟩

end Flattening.Tag
