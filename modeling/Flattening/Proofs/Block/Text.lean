import Flattening.Block.Tags
import Flattening.Block.Text
import Flattening.Proofs.Entries
import Flattening.Proofs.Traversal

/-!
# Which block states are read back from their text

Nothing in the text of a state is escaped, so it is read back just when no part of the state has in
it the character that ends the part.  A state that was read from a text has none: its name ended at
the first bracket, each pair at a comma, and each key at an equals sign.

* `cutAt_eq_some_iff`, `mem_piecesBetween`   what a text is cut into;
* `ofText?_eq_ok_iff`         a text is read by its grammar;
* `Delimited.ofText?_text`    states whose parts end where they should are read back;
* `delimited_of_ofText?`      and only such states are read.
-/

namespace Flattening

/-! ## cutting -/

theorem cutAt_eq_some_iff {c : Char} {s a b : List Char} :
    cutAt c s = some (a, b) ↔ s = a ++ c :: b ∧ c ∉ a := by
  constructor
  · intro h
    induction s generalizing a with
    | nil => cases h
    | cons d r ih =>
      rw [cutAt] at h
      split at h
      · rename_i hd
        cases h
        exact ⟨by rw [hd, List.nil_append], List.not_mem_nil⟩
      · rename_i hd
        obtain ⟨p, hp, h⟩ := Option.map_eq_some_iff.1 h
        cases h
        obtain ⟨rfl, hc⟩ := ih hp
        exact ⟨rfl, List.not_mem_cons_of_ne_of_not_mem (Ne.symm hd) hc⟩
  · rintro ⟨rfl, h⟩
    exact cutAt_append h b

theorem piecesBetween_eq (c : Char) (s : List Char) : piecesBetween c s = s.splitOn c := by
  induction s with
  | nil => rfl
  | cons d r ih =>
    rw [piecesBetween, List.splitOn_cons_eq_if_modifyHead, ih]
    by_cases hd : d = c
    · rw [if_pos hd, if_pos (beq_iff_eq.2 hd)]
    · rw [if_neg hd, if_neg fun h => hd (beq_iff_eq.1 h)]
      cases h : r.splitOn c with
      | nil => exact absurd h (List.splitOn_ne_nil c r)
      | cons p ps => rfl

/-- No piece has in it the character between the pieces. -/
theorem notMem_of_mem_piecesBetween {c : Char} {s p : List Char} (h : p ∈ piecesBetween c s) :
    c ∉ p := by
  induction s generalizing p with
  | nil =>
    rw [List.mem_singleton.1 h]
    exact List.not_mem_nil
  | cons d r ih =>
    rw [piecesBetween] at h
    split at h
    · rcases List.mem_cons.1 h with rfl | h
      · exact List.not_mem_nil
      · exact ih h
    · rename_i hd
      split at h
      · rename_i hnil
        rw [List.mem_singleton.1 h]
        exact List.not_mem_cons_of_ne_of_not_mem (Ne.symm hd) List.not_mem_nil
      · rename_i q qs hcons
        rw [hcons] at ih
        rcases List.mem_cons.1 h with rfl | h
        · exact List.not_mem_cons_of_ne_of_not_mem (Ne.symm hd) (ih List.mem_cons_self)
        · exact ih (List.mem_cons_of_mem q h)

/-- Pieces that are put together are told apart again, if none has in it what stands between. -/
theorem piecesBetween_intercalate {c : Char} {l : List (List Char)} (h : ∀ p ∈ l, c ∉ p)
    (hl : l ≠ []) : piecesBetween c ([c].intercalate l) = l := by
  rw [piecesBetween_eq, List.splitOn_intercalate c h hl]

theorem beforeLast?_eq_some_iff {c : Char} {s a : List Char} :
    beforeLast? c s = some a ↔ s = a ++ [c] := by
  rw [beforeLast?]
  split
  · rename_i h
    obtain ⟨b, rfl⟩ := List.getLast?_eq_some_iff.1 h
    rw [List.dropLast_concat, Option.some.injEq]
    exact ⟨fun h => by rw [h], fun h => (List.append_inj' h rfl).1⟩
  · rename_i h
    refine ⟨nofun, ?_⟩
    rintro rfl
    exact absurd List.getLast?_concat h

namespace BlockState

/-! ## pairs -/

theorem pair?_eq_some_iff {piece : List Char} {p : String × String} :
    pair? piece = some p ↔ piece = pairText p ∧ '=' ∉ p.1.toList := by
  rw [pair?, Option.map_eq_some_iff]
  constructor
  · rintro ⟨⟨k, v⟩, hcut, rfl⟩
    obtain ⟨rfl, hk⟩ := cutAt_eq_some_iff.1 hcut
    simp only [pairText, String.toList_ofList]
    exact ⟨trivial, hk⟩
  · rintro ⟨rfl, hk⟩
    refine ⟨(p.1.toList, p.2.toList), cutAt_append hk _, ?_⟩
    rw [String.ofList_toList, String.ofList_toList]

theorem pairText_ne_nil (p : String × String) : pairText p ≠ [] := by
  rw [pairText]
  exact List.append_ne_nil_of_right_ne_nil _ (List.cons_ne_nil _ _)

/-- the pairs between the brackets, the empty ones left out -/
def pairs? (body : List Char) : Option (List (String × String)) :=
  ((piecesBetween ',' body).filter fun p => !p.isEmpty).mapM pair?

/-- Each pair that is read stood between two commas, and its key before an equals sign. -/
theorem notMem_of_mem_pairs {body : List Char} {pairs : List (String × String)}
    (h : pairs? body = some pairs) {p : String × String} (hp : p ∈ pairs) :
    ',' ∉ p.1.toList ∧ '=' ∉ p.1.toList ∧ ',' ∉ p.2.toList := by
  have hmem : some p ∈ pairs.map some := List.mem_map_of_mem hp
  rw [← forall₂_eq_some_iff.1 (mapM_eq_some_iff.1 h)] at hmem
  obtain ⟨piece, hpiece, hpair⟩ := List.mem_map.1 hmem
  obtain ⟨rfl, hkey⟩ := pair?_eq_some_iff.1 hpair
  have hcomma := notMem_of_mem_piecesBetween (List.mem_filter.1 hpiece).1
  rw [pairText, List.mem_append, List.mem_cons, not_or, not_or] at hcomma
  exact ⟨hcomma.1, hkey, hcomma.2.2⟩

/-- Pairs without commas, and without an equals sign in a key, are read back. -/
theorem pairs?_intercalate {pairs : List (String × String)} (hne : pairs ≠ [])
    (h : ∀ p ∈ pairs, ',' ∉ p.1.toList ∧ '=' ∉ p.1.toList ∧ ',' ∉ p.2.toList) :
    pairs? ([','].intercalate (pairs.map pairText)) = some pairs := by
  have hcomma : ∀ piece ∈ pairs.map pairText, ',' ∉ piece := by
    intro piece hpiece
    obtain ⟨p, hp, rfl⟩ := List.mem_map.1 hpiece
    obtain ⟨hk, -, hv⟩ := h p hp
    rw [pairText, List.mem_append, List.mem_cons, not_or, not_or]
    exact ⟨hk, by decide, hv⟩
  have hfull : (pairs.map pairText).filter (fun p => !p.isEmpty) = pairs.map pairText := by
    refine List.filter_eq_self.2 fun piece hpiece => ?_
    obtain ⟨p, -, rfl⟩ := List.mem_map.1 hpiece
    rw [Bool.not_eq_true', List.isEmpty_eq_false_iff]
    exact pairText_ne_nil p
  have hmap : pairs.map pairText ≠ [] := fun hnil => hne (List.map_eq_nil_iff.1 hnil)
  rw [pairs?, piecesBetween_intercalate hcomma hmap, hfull]
  exact mapM_map_of_inverse fun p hp => pair?_eq_some_iff.2 ⟨rfl, (h p hp).2.1⟩

/-! ## the grammar -/

/-- `Reads t name pairs` says that the text consists of the name and, in brackets behind it, of the
pairs; without a bracket all of it is the name. -/
inductive Reads (t : List Char) : List Char → List (String × String) → Prop where
  | plain (h : '[' ∉ t) : Reads t t []
  | listed {name body : List Char} {pairs : List (String × String)}
      (ht : t = name ++ '[' :: (body ++ [']'])) (hname : '[' ∉ name)
      (hpairs : pairs? body = some pairs) : Reads t name pairs

/-- the name and the pairs of a text, the name not judged -/
def parts? (t : String) : Except TextError (List Char × List (String × String)) :=
  match cutAt '[' t.toList with
  | none => pure (t.toList, [])
  | some (name, r) =>
    match beforeLast? ']' r with
    | none => throw (.unterminated t)
    | some body =>
      match pairs? body with
      | none => throw (.withoutValue t)
      | some pairs => pure (name, pairs)

theorem ofText?_eq (t : String) : ofText? t = (parts? t).bind fun p =>
    if p.1.isEmpty then .error (.emptyName t) else .ok (ofPairs (String.ofList p.1) p.2) := by
  unfold ofText? parts? pairs?
  cases cutAt '[' t.toList with
  | none => rfl
  | some p =>
    obtain ⟨name, r⟩ := p
    dsimp only
    cases beforeLast? ']' r with
    | none => rfl
    | some body =>
      dsimp only
      cases ((piecesBetween ',' body).filter fun p => !p.isEmpty).mapM pair? <;> rfl

theorem parts?_eq_ok_iff {t : String} {name : List Char} {pairs : List (String × String)} :
    parts? t = .ok (name, pairs) ↔ Reads t.toList name pairs := by
  constructor
  · intro h
    unfold parts? at h
    split at h
    · rename_i hcut
      cases h
      exact .plain (cutAt_eq_none_iff.1 hcut)
    · rename_i n r hcut
      obtain ⟨ht, hname⟩ := cutAt_eq_some_iff.1 hcut
      split at h
      · cases h
      · rename_i body hbody
        split at h
        · cases h
        · rename_i hpairs
          cases h
          rw [beforeLast?_eq_some_iff.1 hbody] at ht
          exact .listed ht hname hpairs
  · intro h
    unfold parts?
    cases h with
    | plain h =>
      rw [cutAt_eq_none_iff.2 h]
      rfl
    | listed ht hname hpairs =>
      rw [ht, cutAt_append hname]
      simp only [beforeLast?_eq_some_iff.2 rfl, hpairs]
      rfl

/-- **A text is read by its grammar**, and its name must not be empty. -/
theorem ofText?_eq_ok_iff {t : String} {s : BlockState} : ofText? t = .ok s ↔
    ∃ name pairs, Reads t.toList name pairs ∧ name ≠ [] ∧ s = ofPairs (String.ofList name) pairs := by
  rw [ofText?_eq]
  constructor
  · intro h
    cases hp : parts? t with
    | error e => rw [hp] at h; cases h
    | ok p =>
      obtain ⟨name, pairs⟩ := p
      rw [hp] at h
      replace h : (if name.isEmpty then .error (TextError.emptyName t)
        else .ok (ofPairs (String.ofList name) pairs)) = Except.ok s := h
      split at h
      · cases h
      · rename_i hname
        cases h
        exact ⟨name, pairs, parts?_eq_ok_iff.1 hp, fun hnil => hname (List.isEmpty_iff.2 hnil), rfl⟩
  · rintro ⟨name, pairs, hreads, hname, rfl⟩
    rw [parts?_eq_ok_iff.2 hreads]
    exact if_neg fun h => hname (List.isEmpty_iff.1 h)

/-! ## reading back -/

/-- No part of the state has in it the character that would end it. -/
structure Delimited (s : BlockState) : Prop where
  name_ne_empty : s.name ≠ ""
  name : '[' ∉ s.name.toList
  properties : ∀ p ∈ s.properties,
    ',' ∉ p.1.toList ∧ '=' ∉ p.1.toList ∧ ',' ∉ p.2.toList

theorem Delimited.reads {s : BlockState} (h : s.Delimited) :
    Reads s.text.toList s.name.toList s.properties := by
  rw [text, String.toList_ofList, chars]
  split
  · rename_i hnil
    rw [List.isEmpty_iff.1 hnil, List.append_nil]
    exact .plain h.name
  · rename_i hne
    have hpairs := pairs?_intercalate (fun hnil => hne (List.isEmpty_iff.2 hnil)) h.properties
    exact .listed rfl h.name hpairs

theorem Delimited.ofText?_text {s : BlockState} (h : s.Delimited) : ofText? s.text = .ok s := by
  refine ofText?_eq_ok_iff.2 ⟨_, _, h.reads, fun hnil => h.name_ne_empty ?_, ?_⟩
  · exact String.toList_eq_nil_iff.1 hnil
  · rw [String.ofList_toList, ofPairs_properties]

/-- What is read from a text has been cut where its parts end. -/
theorem delimited_of_ofText? {t : String} {s : BlockState} (h : ofText? t = .ok s) :
    s.Delimited := by
  obtain ⟨name, pairs, hreads, hne, rfl⟩ := ofText?_eq_ok_iff.1 h
  have hname : (ofPairs (String.ofList name) pairs).name = String.ofList name := rfl
  have hparts : '[' ∉ name ∧
      ∀ p ∈ pairs, ',' ∉ p.1.toList ∧ '=' ∉ p.1.toList ∧ ',' ∉ p.2.toList := by
    cases hreads with
    | plain hplain => exact ⟨hplain, fun p hp => absurd hp List.not_mem_nil⟩
    | listed ht hname hpairs => exact ⟨hname, fun p hp => notMem_of_mem_pairs hpairs hp⟩
  refine ⟨?_, ?_, fun p hp => hparts.2 p (Entries.mem_of_mem_ofList hp)⟩
  · rw [hname]
    exact fun h => hne (by rw [← String.toList_ofList (l := name), h]; rfl)
  · rw [hname, String.toList_ofList]
    exact hparts.1

/-- **The text of a state is read back just when no part of it has in it what would end it**: the
name is there and has no opening bracket, no key has a comma or an equals sign, and no value has a
comma.  Every state that was read from a text is such a one, so the text it is then written as is
read as the same state, whatever pairs the first text listed, in which order and how often. -/
theorem text_read_iff : (∀ s : BlockState, ofText? s.text = .ok s ↔
      s.name ≠ "" ∧ '[' ∉ s.name.toList ∧
      (∀ p ∈ s.properties, ',' ∉ p.1.toList ∧ '=' ∉ p.1.toList) ∧
      ∀ p ∈ s.properties, ',' ∉ p.2.toList) ∧
    ∀ t s, ofText? t = .ok s → ofText? s.text = .ok s := by
  refine ⟨fun s => ⟨fun h => ?_, ?_⟩, fun t s h => (delimited_of_ofText? h).ofText?_text⟩
  · obtain ⟨hne, hname, hproperties⟩ := delimited_of_ofText? h
    exact ⟨hne, hname, fun p hp => ⟨(hproperties p hp).1, (hproperties p hp).2.1⟩,
      fun p hp => (hproperties p hp).2.2⟩
  · rintro ⟨hne, hname, hkeys, hvalues⟩
    exact Delimited.ofText?_text
      ⟨hne, hname, fun p hp => ⟨(hkeys p hp).1, (hkeys p hp).2, hvalues p hp⟩⟩

/-- A key that comes twice, an empty pair, and in a value what would end other parts. -/
theorem text_read_iff_repeated :
    ∃ s, ofText? "lever[powered=no,,face=[=],powered=yes]" = .ok s ∧
      s.text = "lever[face=[=],powered=yes]" ∧ ofText? s.text = .ok s ∧
      ofText? (plain "lever[face=wall]").text ≠ .ok (plain "lever[face=wall]") := by
  have h : ofText? "lever[powered=no,,face=[=],powered=yes]" =
      .ok (ofPairs "lever" [("face", "[=]"), ("powered", "yes")]) := by rfl
  refine ⟨_, h, by decide +kernel, text_read_iff.2 _ _ h, fun hread => ?_⟩
  exact absurd ((text_read_iff.1 _).1 hread).2.1 (by decide +kernel)

end BlockState

end Flattening
