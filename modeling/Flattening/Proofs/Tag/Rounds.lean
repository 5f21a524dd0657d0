import Flattening.Proofs.Tag.Spelling

/-!
# Rounds enough

A compound is read for a bounded number of rounds.  Each of them takes bytes, so the bound is
never met before the bytes run out: with as many rounds as there are bytes a compound is read
like in a loop that goes on until the end mark, and more rounds change nothing.

* `Loop`                  the loop without a bound, as far as it runs;
* `length_lt_of_named`    a round takes bytes;
* `loop_entries`          as many rounds as there are bytes are the whole loop;
* `payload_rounds`, `named_rounds`   so a greater bound reads the same.
-/

namespace Flattening.Tag.Reader

variable {α β : Type} {s s' : List UInt8}

/-! ## taking bytes -/

theorem length_le_of_payload {rounds levels : Nat} {b : UInt8} {t : Tag}
    (h : payload rounds levels b s = .ok (t, s')) : s'.length ≤ s.length := by
  obtain ⟨-, front, rfl, -⟩ := exists_spelling h
  rw [List.length_append]
  exact Nat.le_add_left _ _

theorem length_lt_of_named {rounds levels : Nat} {o : Option (String × Tag)}
    (h : named (payload rounds levels) s = .ok (o, s')) : s'.length < s.length := by
  cases o with
  | none =>
    rw [eq_of_named_none h]
    exact Nat.lt_succ_self _
  | some p =>
    obtain ⟨-, f, rfl, -⟩ := exists_piece_of_named (fun _ _ _ _ => exists_spelling) h
    have hpos := length_headBytes_pos p.1 p.2
    rw [List.length_append, List.length_append]
    omega

theorem named_nil (payload : UInt8 → Reader Tag) : named payload [] = .error (.truncated 1) := rfl

/-! ## the loop of a compound -/

/-- `Loop entry out s r` says that reading entries from `s` until the end mark, each put into
`out`, comes to an end and gives `r`. -/
inductive Loop (entry : Reader (Option (String × Tag))) :
    Entries String Tag → List UInt8 → Except ReadError (Entries String Tag × List UInt8) → Prop
  | refused {out : Entries String Tag} {s : List UInt8} {e : ReadError}
      (h : entry s = .error e) : Loop entry out s (.error e)
  | endMark {out : Entries String Tag} {s s' : List UInt8} (h : entry s = .ok (none, s')) :
      Loop entry out s (.ok (out, s'))
  | next {out : Entries String Tag} {s s' : List UInt8} {k : String} {t : Tag}
      {r : Except ReadError (Entries String Tag × List UInt8)}
      (h : entry s = .ok (some (k, t), s')) (hr : Loop entry (Entries.insert k t out) s' r) :
      Loop entry out s r

/-- The loop has one outcome. -/
theorem Loop.unique {entry : Reader (Option (String × Tag))} {out : Entries String Tag}
    {r r' : Except ReadError (Entries String Tag × List UInt8)} (h : Loop entry out s r)
    (h' : Loop entry out s r') : r = r' := by
  induction h with
  | refused he =>
    cases h' with
    | refused he' => exact congrArg Except.error (Except.error.inj (he.symm.trans he'))
    | endMark he' => cases he.symm.trans he'
    | next he' => cases he.symm.trans he'
  | endMark he =>
    cases h' with
    | refused he' => cases he.symm.trans he'
    | endMark he' =>
      cases he.symm.trans he'
      rfl
    | next he' => cases he.symm.trans he'
  | next he _ ih =>
    cases h' with
    | refused he' => cases he.symm.trans he'
    | endMark he' => cases he.symm.trans he'
    | next he' hr' =>
      cases he.symm.trans he'
      exact ih hr'

/-- **As many rounds as there are bytes are the whole loop**, when each round takes bytes. -/
theorem loop_entries {entry : Reader (Option (String × Tag))} {rounds : Nat}
    (hnil : entry [] = .error (.truncated 1))
    (hentry : ∀ u u' o, u.length ≤ s.length → entry u = .ok (o, u') → u'.length < u.length)
    (hr : s.length ≤ rounds) (out : Entries String Tag) :
    Loop entry out s (entries entry rounds out s) := by
  induction rounds generalizing s out with
  | zero =>
    rw [List.length_eq_zero_iff.1 (Nat.le_zero.1 hr), entries_zero]
    exact .refused hnil
  | succ n ih =>
    rw [entries_succ]
    cases he : entry s with
    | error e => exact .refused he
    | ok q =>
      obtain ⟨o, mid⟩ := q
      have hlt := hentry s mid o (Nat.le_refl _) he
      cases o with
      | none => exact .endMark he
      | some p =>
        exact .next he (ih (fun u u' o hu => hentry u u' o (by omega)) (by omega) _)

/-- The loop depends on the entries only that it reads. -/
theorem Loop.congr {entry entry' : Reader (Option (String × Tag))} {out : Entries String Tag}
    {r : Except ReadError (Entries String Tag × List UInt8)} {n : Nat}
    (heq : ∀ u, u.length ≤ n → entry u = entry' u)
    (hentry : ∀ u u' o, entry u = .ok (o, u') → u'.length < u.length) (hs : s.length ≤ n)
    (h : Loop entry out s r) : Loop entry' out s r := by
  induction h with
  | refused he => exact .refused ((heq _ hs).symm.trans he)
  | endMark he => exact .endMark ((heq _ hs).symm.trans he)
  | next he _ ih =>
    have hlt := hentry _ _ _ he
    exact .next ((heq _ hs).symm.trans he) (ih (by omega))

/-! ## more rounds -/

theorem bind_congr_of_ok {x y : Reader α} {f g : α → Reader β} (hx : x s = y s)
    (hf : ∀ a mid, x s = .ok (a, mid) → f a mid = g a mid) : (x >>= f) s = (y >>= g) s := by
  show StateT.bind x f s = StateT.bind y g s
  unfold StateT.bind
  rw [← hx]
  cases h : x s with
  | error e => rfl
  | ok q =>
    obtain ⟨a, mid⟩ := q
    exact hf a mid h

theorem repeated_congr {item item' : Reader α} {n : Nat}
    (heq : ∀ u, u.length ≤ n → item u = item' u)
    (hitem : ∀ u u' a, item u = .ok (a, u') → u'.length ≤ u.length) (hs : s.length ≤ n)
    (count : Nat) (out : Array α) : repeated item count out s = repeated item' count out s := by
  induction count generalizing s out with
  | zero => rfl
  | succ count ih =>
    rw [repeated_succ, repeated_succ, ← heq s hs]
    cases h : item s with
    | error e => rfl
    | ok q =>
      obtain ⟨a, mid⟩ := q
      have hle := hitem s mid a h
      exact ih (by omega) _

theorem named_congr {payload payload' : UInt8 → Reader Tag}
    (h : ∀ b u, u.length ≤ s.length → payload b u = payload' b u) :
    named payload s = named payload' s := by
  refine bind_congr_of_ok rfl fun b mid hb => ?_
  have hmid := cons_of_byte hb
  by_cases h0 : b = 0
  · rw [if_pos h0, if_pos h0]
  · rw [if_neg h0, if_neg h0]
    refine bind_congr_of_ok rfl fun name mid' hname => ?_
    have hmid' := textBytes_of_text hname
    refine bind_congr_of_ok (h b mid' ?_) fun _ _ _ => rfl
    rw [hmid, List.length_cons, hmid', List.length_append]
    omega

theorem entries_congr {rounds rounds' levels : Nat}
    (hr : s.length ≤ rounds) (hr' : s.length ≤ rounds')
    (h : ∀ b u, u.length ≤ s.length → payload rounds levels b u = payload rounds' levels b u)
    (out : Entries String Tag) :
    entries (named (payload rounds levels)) rounds out s =
      entries (named (payload rounds' levels)) rounds' out s := by
  have hentry : ∀ n u u' o, named (payload n levels) u = .ok (o, u') → u'.length < u.length :=
    fun _ _ _ _ => length_lt_of_named
  have hloop := loop_entries (named_nil _) (fun u u' o _ => hentry rounds u u' o) hr out
  have hloop' := loop_entries (named_nil _) (fun u u' o _ => hentry rounds' u u' o) hr' out
  have heq : ∀ u, u.length ≤ s.length →
      named (payload rounds levels) u = named (payload rounds' levels) u := fun u hu =>
    named_congr fun b v hv => h b v (Nat.le_trans hv hu)
  exact (hloop.congr heq (hentry rounds) (Nat.le_refl _)).unique hloop'

/-- **More rounds than there are bytes change nothing.** -/
theorem payload_rounds {rounds rounds' : Nat} (hr : s.length ≤ rounds) (hr' : s.length ≤ rounds')
    (levels : Nat) (b : UInt8) : payload rounds levels b s = payload rounds' levels b s := by
  induction levels generalizing b s with
  | zero => rfl
  | succ levels ih =>
    cases hk : Kind.ofByte? b with
    | none => rw [payload, payload, hk]
    | some k =>
    obtain rfl := Kind.eq_toByte_of_ofByte? hk
    rw [payload_succ, payload_succ]
    have hpart : ∀ b u, u.length ≤ s.length →
        payload rounds levels b u = payload rounds' levels b u := fun b u hu =>
      ih (Nat.le_trans hu hr) (Nat.le_trans hu hr') b
    cases k with
    | list =>
      refine bind_congr_of_ok rfl fun e mid he => bind_congr_of_ok rfl fun n mid' hn => ?_
      have hmid := cons_of_byte he
      have hmid' := bigEndian_of_length hn
      have hle : mid'.length ≤ s.length := by
        rw [hmid, List.length_cons, hmid', List.length_append]
        omega
      split
      · rfl
      · refine bind_congr_of_ok ?_ fun _ _ _ => rfl
        exact repeated_congr (hpart e) (fun _ _ _ => length_le_of_payload) hle n #[]
    | compound =>
      exact bind_congr_of_ok (entries_congr hr hr' hpart []) fun _ _ _ => rfl
    | _ => rfl

theorem named_rounds {rounds rounds' : Nat} (hr : s.length ≤ rounds) (hr' : s.length ≤ rounds')
    (levels : Nat) :
    named (payload rounds levels) s = named (payload rounds' levels) s :=
  named_congr fun b _ hu =>
    payload_rounds (Nat.le_trans hu hr) (Nat.le_trans hu hr') levels b

end Flattening.Tag.Reader
