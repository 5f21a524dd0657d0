import Flattening.Entries
import Mathlib.Data.Fintype.Fin

/-!
# Entries in another order

A list in key order is settled by its pairs, so a list built from pairs with different keys does
not depend on their order.

* `eq_of_perm`     two lists in key order with the same pairs are equal;
* `ofList_perm`    pairs with different keys give the same list in every order;
* `isSome_get?_iff`     the keys of a list are those under which there is something;
* `get?_eq_some_iff`    and keys that differ have just their own values;
* `mem_of_mem_ofList`   a list built from pairs holds none but them;
* `get?_ofList`           and under each key the value of the last of them;
* `ofList_eq_in_any_order_iff`   so their order does not matter when no key has two values;
* `perm_ofList_iff`       and none is lost when their keys differ;
* `get?_tabulate`       a list built from a function gives back its values;
* `eq_of_get?_eq`       two lists in key order that hold the same under each key are equal;
* `perm_cons_erase`, `insert_perm_erase`   a pair told apart from the others;
* `insert_comm`, `erase_comm`   what is done under different keys is done in any order.
-/

namespace Flattening.Entries

variable {κ α : Type}

/-! ## looking up -/

theorem isSome_get?_iff [DecidableEq κ] {k : κ} {m : Entries κ α} :
    (get? k m).isSome ↔ k ∈ m.map Prod.fst := by
  induction m with
  | nil => simp [get?_nil]
  | cons p r ih =>
    obtain ⟨k', v⟩ := p
    rw [get?_cons, List.map_cons, List.mem_cons]
    split
    · rename_i hk
      simp [hk]
    · rename_i hk
      rw [ih, or_iff_right hk]

/-- Under keys that differ there are just the values that stand there. -/
theorem get?_eq_some_iff [DecidableEq κ] {k : κ} {v : α} {m : Entries κ α}
    (h : (m.map Prod.fst).Nodup) : get? k m = some v ↔ (k, v) ∈ m := by
  refine ⟨mem_of_get?, fun hmem => ?_⟩
  induction m with
  | nil => cases hmem
  | cons p r ih =>
    obtain ⟨k', v'⟩ := p
    rw [List.map_cons, List.nodup_cons] at h
    rw [get?_cons]
    rcases List.mem_cons.1 hmem with heq | hmem
    · cases heq
      rw [if_pos rfl]
    · have hk : k ∈ r.map Prod.fst := List.mem_map_of_mem hmem
      have hne : k ≠ k' := fun heq => h.1 (heq ▸ hk)
      rw [if_neg hne, ih h.2 hmem]

theorem notMem_keys_erase [DecidableEq κ] (k : κ) (m : Entries κ α) :
    k ∉ (erase k m).map Prod.fst := by
  rw [← isSome_get?_iff, get?_erase_self]
  exact Bool.false_ne_true

theorem erase_sublist [DecidableEq κ] (k : κ) (m : Entries κ α) :
    List.Sublist (erase k m) m := by
  induction m with
  | nil => exact List.Sublist.refl _
  | cons p r ih =>
    obtain ⟨k', v⟩ := p
    rw [erase_cons]
    split
    · exact ih.cons _
    · exact ih.cons_cons _

theorem nodup_keys_erase [DecidableEq κ] (k : κ) {m : Entries κ α} (h : (m.map Prod.fst).Nodup) :
    ((erase k m).map Prod.fst).Nodup := ((erase_sublist k m).map Prod.fst).nodup h

theorem erase_comm [DecidableEq κ] (k k' : κ) (m : Entries κ α) :
    erase k (erase k' m) = erase k' (erase k m) := by
  induction m with
  | nil => rfl
  | cons p r ih =>
    obtain ⟨j, v⟩ := p
    rw [erase_cons, erase_cons k j]
    by_cases hk : k = j
    · by_cases hk' : k' = j
      · rw [if_pos hk, if_pos hk', ih]
      · rw [if_pos hk, if_neg hk', erase_cons, if_pos hk, ih]
    · by_cases hk' : k' = j
      · rw [if_neg hk, if_pos hk', erase_cons, if_pos hk', ih]
      · rw [if_neg hk, if_neg hk', erase_cons, if_neg hk, erase_cons, if_neg hk', ih]

/-- Two lists that hold the same under each key hold the same pairs. -/
theorem perm_of_get?_eq [DecidableEq κ] {a b : Entries κ α} (ha : (a.map Prod.fst).Nodup)
    (hb : (b.map Prod.fst).Nodup) (h : ∀ k, get? k a = get? k b) : a.Perm b := by
  refine (List.perm_ext_iff_of_nodup (.of_map _ ha) (.of_map _ hb)).2 fun p => ?_
  rw [← get?_eq_some_iff ha, ← get?_eq_some_iff hb, h]

theorem perm_cons_erase [DecidableEq κ] {k : κ} {v : α} {m : Entries κ α}
    (hn : (m.map Prod.fst).Nodup) (h : get? k m = some v) : m.Perm ((k, v) :: erase k m) := by
  have hcons : (((k, v) :: erase k m).map Prod.fst).Nodup :=
    List.nodup_cons.2 ⟨notMem_keys_erase k m, nodup_keys_erase k hn⟩
  refine perm_of_get?_eq hn hcons fun j => ?_
  rw [get?_cons]
  split
  · rename_i hj
    rw [hj, h]
  · rename_i hj
    rw [get?_erase_ne hj]

/-- A pair that goes is one less. -/
theorem length_erase [DecidableEq κ] (k : κ) {m : Entries κ α} (hn : (m.map Prod.fst).Nodup) :
    (erase k m).length + (if (get? k m).isSome then 1 else 0) = m.length := by
  cases h : get? k m with
  | some v =>
    rw [(perm_cons_erase hn h).length_eq]
    rfl
  | none =>
    have hsame : ∀ j, get? j (erase k m) = get? j m := by
      intro j
      by_cases hj : j = k
      · rw [hj, get?_erase_self, h]
      · exact get?_erase_ne hj m
    exact (perm_of_get?_eq (nodup_keys_erase k hn) hn hsame).length_eq

/-! ## tables -/

/-- the values of a function, wherever it has one, under keys that go with its arguments -/
def tabulate {n : Nat} (key : Fin n → κ) (f : Fin n → Option α) : Entries κ α :=
  (List.finRange n).filterMap fun i => (f i).map fun a => (key i, a)

theorem get?_tabulate [DecidableEq κ] {n : Nat} {key : Fin n → κ} (hkey : Function.Injective key)
    (f : Fin n → Option α) (i : Fin n) : get? (key i) (tabulate key f) = f i := by
  have hall : ∀ l : List (Fin n),
      get? (key i) (l.filterMap fun j => (f j).map fun a => (key j, a)) =
        if i ∈ l then f i else none := by
    intro l
    induction l with
    | nil => rfl
    | cons j l ih =>
      rw [List.filterMap_cons]
      by_cases hij : i = j
      · subst hij
        rw [if_pos List.mem_cons_self]
        cases hf : f i with
        | none =>
          rw [hf, ite_self] at ih
          exact ih
        | some a =>
          rw [Option.map_some, get?_cons, if_pos rfl]
      · have hmem : i ∈ j :: l ↔ i ∈ l := by rw [List.mem_cons, or_iff_right hij]
        simp only [hmem]
        cases f j with
        | none => exact ih
        | some a =>
          rw [Option.map_some, get?_cons, if_neg fun h => hij (hkey h)]
          exact ih
  rw [tabulate, hall, if_pos (List.mem_finRange i)]

theorem exists_key_of_get?_tabulate [DecidableEq κ] {n : Nat} {key : Fin n → κ}
    {f : Fin n → Option α} {k : κ} {a : α} (h : get? k (tabulate key f) = some a) :
    ∃ i, key i = k := by
  obtain ⟨i, -, hi⟩ := List.mem_filterMap.1 (mem_of_get? h)
  obtain ⟨b, -, hb⟩ := Option.map_eq_some_iff.1 hi
  exact ⟨i, congrArg Prod.fst hb⟩

theorem get?_tabulate_id {n : Nat} (f : Fin n → Option α) (i : Fin n) :
    get? i (tabulate id f) = f i := get?_tabulate Function.injective_id f i

/-! ## key order -/

variable [LT κ]

/-- Two lists in key order with the same pairs are equal. -/
theorem eq_of_perm [KeyOrder κ] {a b : Entries κ α} (ha : Ascending a) (hb : Ascending b)
    (h : a.Perm b) : a = b := by
  refine List.Perm.eq_of_pairwise ?_ ha hb h
  intro p q _ _ hpq hqp
  exact absurd (KeyOrder.trans hpq hqp) (KeyOrder.irrefl p.1)

theorem ascending_tabulate {n : Nat} {key : Fin n → κ} (hkey : ∀ i j, i < j → key i < key j)
    (f : Fin n → Option α) : Ascending (tabulate key f) := by
  rw [Ascending, tabulate, List.pairwise_filterMap]
  refine (List.pairwise_lt_finRange n).imp ?_
  intro i j hij p hp q hq
  obtain ⟨a, -, rfl⟩ := Option.map_eq_some_iff.1 hp
  obtain ⟨b, -, rfl⟩ := Option.map_eq_some_iff.1 hq
  exact hkey i j hij

theorem nodup_of_ascending [KeyOrder κ] {m : Entries κ α} (h : Ascending m) :
    (m.map Prod.fst).Nodup := by
  rw [List.Nodup, List.pairwise_map]
  refine h.imp ?_
  intro p q hpq heq
  rw [heq] at hpq
  exact KeyOrder.irrefl q.1 hpq

theorem eq_of_get?_eq [DecidableEq κ] [KeyOrder κ] {a b : Entries κ α} (ha : Ascending a)
    (hb : Ascending b) (h : ∀ k, get? k a = get? k b) : a = b :=
  eq_of_perm ha hb (perm_of_get?_eq (nodup_of_ascending ha) (nodup_of_ascending hb) h)

variable [DecidableEq κ] [DecidableLT κ]

theorem erase_insert_self (k : κ) (v : α) (m : Entries κ α) :
    erase k (insert k v m) = erase k m := by
  induction m with
  | nil =>
    rw [insert_nil, erase_cons, if_pos rfl]
  | cons p r ih =>
    obtain ⟨k', v'⟩ := p
    rw [insert_cons]
    split
    · rw [erase_cons, if_pos rfl]
    · split
      · rename_i hk
        rw [erase_cons, if_pos rfl, erase_cons, if_pos hk]
      · rename_i hk
        rw [erase_cons, if_neg hk, erase_cons, if_neg hk, ih]

/-- Pairs with different keys are put in in any order. -/
theorem insert_comm [KeyOrder κ] {k k' : κ} (h : k ≠ k') (v v' : α) (m : Entries κ α) :
    insert k v (insert k' v' m) = insert k' v' (insert k v m) := by
  -- which of the two goes in front is settled by their keys and the first key of the list
  induction m with
  | nil => grind [insert_nil, insert_cons, KeyOrder.irrefl, KeyOrder.trans, KeyOrder.connex]
  | cons p r ih => grind [insert_cons, KeyOrder.irrefl, KeyOrder.trans, KeyOrder.connex]

/-- A pair that is put in stands beside the pairs with other keys. -/
theorem insert_perm_erase [KeyOrder κ] (k : κ) (v : α) {m : Entries κ α} (h : Ascending m) :
    (insert k v m).Perm ((k, v) :: erase k m) := by
  have hn := nodup_of_ascending (ascending_insert k v h)
  have hcons : (((k, v) :: erase k m).map Prod.fst).Nodup :=
    List.nodup_cons.2 ⟨notMem_keys_erase k m, nodup_keys_erase k (nodup_of_ascending h)⟩
  refine perm_of_get?_eq hn hcons fun j => ?_
  rw [get?_cons]
  split
  · rename_i hj
    rw [hj, get?_insert_self]
  · rename_i hj
    rw [get?_insert_ne hj, get?_erase_ne hj]

theorem mem_of_mem_ofList {l : List (κ × α)} {p : κ × α} (h : p ∈ ofList l) : p ∈ l := by
  have hall : ∀ (l : List (κ × α)) (m : Entries κ α),
      p ∈ l.foldl (fun m q => insert q.1 q.2 m) m → p ∈ m ∨ p ∈ l := by
    intro l
    induction l with
    | nil => exact fun m h => .inl h
    | cons q l ih =>
      intro m h
      rcases ih _ h with h | h
      · rcases mem_insert h with rfl | h
        · exact .inr List.mem_cons_self
        · exact .inl h
      · exact .inr (List.mem_cons_of_mem q h)
  rcases hall l [] h with h | h
  · exact absurd h List.not_mem_nil
  · exact h

/-- A pair with a key that is not there is put among the others. -/
theorem insert_perm {k : κ} (v : α) {m : Entries κ α} (h : k ∉ m.map Prod.fst) :
    (insert k v m).Perm ((k, v) :: m) := by
  induction m with
  | nil => exact .refl _
  | cons p r ih =>
    obtain ⟨k', v'⟩ := p
    rw [List.map_cons, List.mem_cons, not_or] at h
    rw [insert_cons]
    split
    · exact .refl _
    · rw [if_neg h.1]
      exact ((ih h.2).cons _).trans (.swap _ _ _)

theorem perm_ofList {l : List (κ × α)} (h : (l.map Prod.fst).Nodup) : (ofList l).Perm l := by
  have hall : ∀ (l : List (κ × α)) (m : Entries κ α), ((m ++ l).map Prod.fst).Nodup →
      (l.foldl (fun m q => insert q.1 q.2 m) m).Perm (m ++ l) := by
    intro l
    induction l with
    | nil =>
      intro m _
      rw [List.append_nil]
      exact .refl _
    | cons q l ih =>
      intro m hm
      have hq : q.1 ∉ m.map Prod.fst := by
        rw [List.map_append, List.nodup_append] at hm
        exact fun h => hm.2.2 q.1 h q.1 (by simp) rfl
      have hp : (insert q.1 q.2 m ++ l).Perm (m ++ q :: l) :=
        ((insert_perm q.2 hq).append_right l).trans List.perm_middle.symm
      refine (ih _ ?_).trans hp
      exact (hp.map Prod.fst).nodup_iff.2 hm
  exact hall l [] h

/-- Under a key stands the value of the last pair with it. -/
theorem get?_ofList (k : κ) (l : List (κ × α)) :
    get? k (ofList l) = ((l.filter fun p => p.1 = k).getLast?).map Prod.snd := by
  induction l using List.reverseRecOn with
  | nil => rfl
  | append_singleton l p ih =>
    rw [ofList_append_singleton, List.filter_append]
    by_cases hk : p.1 = k
    · have hfilter : [p].filter (fun p => p.1 = k) = [p] := by simp [hk]
      rw [hfilter, List.getLast?_concat, hk, get?_insert_self]
      rfl
    · have hfilter : [p].filter (fun p => p.1 = k) = [] := by simp [hk]
      rw [hfilter, List.append_nil, ← ih, get?_insert_ne (Ne.symm hk)]

/-- When each key has one value, it does not matter which of its pairs is the last. -/
theorem get?_ofList_eq_some_iff {l : List (κ × α)} (h : ∀ p ∈ l, ∀ q ∈ l, p.1 = q.1 → p = q)
    {k : κ} {v : α} : get? k (ofList l) = some v ↔ (k, v) ∈ l := by
  refine ⟨fun hget => mem_of_mem_ofList (mem_of_get? hget), fun hmem => ?_⟩
  have hkept : (k, v) ∈ l.filter fun p => p.1 = k :=
    List.mem_filter.2 ⟨hmem, decide_eq_true rfl⟩
  have hlast := List.getLast?_eq_some_getLast (List.ne_nil_of_mem hkept)
  obtain ⟨hp, hk⟩ := List.mem_filter.1 (List.mem_of_getLast? hlast)
  rw [get?_ofList, hlast, h _ hp _ hmem (of_decide_eq_true hk)]
  rfl

theorem ofList_eq_of_perm [KeyOrder κ] {l l' : List (κ × α)}
    (h : ∀ p ∈ l, ∀ q ∈ l, p.1 = q.1 → p = q) (hp : l'.Perm l) : ofList l' = ofList l := by
  have h' : ∀ p ∈ l', ∀ q ∈ l', p.1 = q.1 → p = q :=
    fun p hpl q hql => h p (hp.mem_iff.1 hpl) q (hp.mem_iff.1 hql)
  refine eq_of_get?_eq (ascending_ofList l') (ascending_ofList l) fun k => Option.ext fun v => ?_
  rw [get?_ofList_eq_some_iff h, get?_ofList_eq_some_iff h', hp.mem_iff]

theorem ofList_perm [KeyOrder κ] {l l' : List (κ × α)} (hn : (l.map Prod.fst).Nodup)
    (h : l.Perm l') : ofList l = ofList l' :=
  (ofList_eq_of_perm (fun _ hp _ hq => List.inj_on_of_nodup_map hn hp hq) h.symm).symm

/-- The order does not matter just when no key has two values. -/
theorem ofList_eq_in_any_order_iff [KeyOrder κ] {l : List (κ × α)} :
    (∀ l', l'.Perm l → ofList l' = ofList l) ↔ ∀ p ∈ l, ∀ q ∈ l, p.1 = q.1 → p = q := by
  refine ⟨fun h => ?_, fun h l' hp => ofList_eq_of_perm h hp⟩
  -- any pair can be the last, and the last is the one that counts
  have hkept : ∀ p ∈ l, get? p.1 (ofList l) = some p.2 := by
    intro p hp
    obtain ⟨a, b, rfl⟩ := List.append_of_mem hp
    have hlast : (a ++ b ++ [p]).Perm (a ++ p :: b) :=
      (List.perm_append_singleton p (a ++ b)).trans List.perm_middle.symm
    rw [← h _ hlast, ofList_append_singleton, get?_insert_self]
  intro p hp q hq hpq
  have hvalue := hkept p hp
  rw [hpq, hkept q hq, Option.some.injEq] at hvalue
  exact Prod.ext hpq hvalue.symm

/-- No pair is lost just when the keys differ. -/
theorem perm_ofList_iff [KeyOrder κ] {l : List (κ × α)} :
    (ofList l).Perm l ↔ (l.map Prod.fst).Nodup := by
  refine ⟨fun h => ?_, perm_ofList⟩
  exact (h.map Prod.fst).nodup_iff.1 (nodup_of_ascending (ascending_ofList l))

end Flattening.Entries
