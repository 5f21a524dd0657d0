/-!
# Entries: association lists in key order

A compound, a property map and a table by section number are all the same thing: a list of
pairs, strictly ascending in the key.  `Entries κ α` is the plain list, so that a nested
inductive type can hold it; `Ascending` says that it is in order.

* `get?_insert_self`, `get?_insert_ne`   looking up after `insert`, for every list;
* `get?_erase_self`, `get?_erase_ne`     looking up after `erase`, for every list;
* `ascending_insert`, `ascending_erase`  both keep the order;
* `ascending_ofList`, `ofList_of_ascending`   a list built from pairs is in order, and is the
  pairs themselves when they are in order.
-/

namespace Flattening

/-- pairs of a key and its value -/
abbrev Entries (κ α : Type) := List (κ × α)

namespace Entries

variable {κ α : Type}

/-! ## looking up -/

section
variable [DecidableEq κ]

def get? (k : κ) : Entries κ α → Option α
  | [] => none
  | (k', v) :: r => if k = k' then some v else get? k r

theorem get?_nil (k : κ) : get? k ([] : Entries κ α) = none := rfl

theorem get?_cons (k k' : κ) (v : α) (r : Entries κ α) :
    get? k ((k', v) :: r) = if k = k' then some v else get? k r := rfl

theorem mem_of_get? {k : κ} {v : α} {l : Entries κ α} (h : get? k l = some v) : (k, v) ∈ l := by
  induction l with
  | nil => cases h
  | cons p r ih =>
    obtain ⟨k', v'⟩ := p
    rw [get?_cons] at h
    split at h
    · rename_i e
      cases h
      rw [e]
      exact List.mem_cons_self
    · exact List.mem_cons_of_mem (k', v') (ih h)

def contains (k : κ) (l : Entries κ α) : Bool := (get? k l).isSome

/-- every pair with this key goes -/
def erase (k : κ) : Entries κ α → Entries κ α
  | [] => []
  | (k', v) :: r => if k = k' then erase k r else (k', v) :: erase k r

theorem erase_nil (k : κ) : erase k ([] : Entries κ α) = [] := rfl

theorem erase_cons (k k' : κ) (v : α) (r : Entries κ α) :
    erase k ((k', v) :: r) = if k = k' then erase k r else (k', v) :: erase k r := rfl

theorem get?_erase_self (k : κ) (l : Entries κ α) : get? k (erase k l) = none := by
  induction l with
  | nil => rfl
  | cons p r ih =>
    obtain ⟨k', v⟩ := p
    by_cases h : k = k'
    · subst h; simp [erase_cons, ih]
    · simp [erase_cons, get?_cons, h, ih]

theorem get?_erase_ne {k k' : κ} (h : k' ≠ k) (l : Entries κ α) :
    get? k' (erase k l) = get? k' l := by
  induction l with
  | nil => rfl
  | cons p r ih =>
    obtain ⟨k'', v⟩ := p
    by_cases hk : k = k''
    · subst hk; simp [erase_cons, get?_cons, h, ih]
    · by_cases hk' : k' = k'' <;> simp [erase_cons, get?_cons, hk, hk', ih]

theorem mem_erase {k : κ} {p : κ × α} {l : Entries κ α} :
    p ∈ erase k l ↔ p ∈ l ∧ p.1 ≠ k := by
  induction l with
  | nil => simp [erase_nil]
  | cons q r ih =>
    obtain ⟨k', v⟩ := q
    rw [erase_cons]
    split
    · grind
    · simp only [List.mem_cons, ih]
      grind

end

/-! ## inserting in order -/

section
variable [DecidableEq κ] [LT κ] [DecidableLT κ]

/-- A pair goes before the first greater key; one with an equal key is replaced. -/
def insert (k : κ) (v : α) : Entries κ α → Entries κ α
  | [] => [(k, v)]
  | (k', v') :: r =>
    if k < k' then (k, v) :: (k', v') :: r
    else if k = k' then (k, v) :: r
    else (k', v') :: insert k v r

theorem insert_nil (k : κ) (v : α) : insert k v [] = [(k, v)] := rfl

theorem insert_cons (k k' : κ) (v v' : α) (r : Entries κ α) :
    insert k v ((k', v') :: r) =
      if k < k' then (k, v) :: (k', v') :: r
      else if k = k' then (k, v) :: r
      else (k', v') :: insert k v r := rfl

theorem get?_insert_self (k : κ) (v : α) (l : Entries κ α) :
    get? k (insert k v l) = some v := by
  induction l with
  | nil => simp [insert_nil, get?_cons]
  | cons p r ih =>
    obtain ⟨k', v'⟩ := p
    rw [insert_cons]
    split
    · simp [get?_cons]
    · split
      · simp [get?_cons]
      · simp_all [get?_cons]

theorem get?_insert_ne {k k' : κ} (h : k' ≠ k) (v : α) (l : Entries κ α) :
    get? k' (insert k v l) = get? k' l := by
  induction l with
  | nil => simp [insert_nil, get?_cons, h, get?_nil]
  | cons p r ih =>
    obtain ⟨k'', v'⟩ := p
    rw [insert_cons]
    split
    · simp [get?_cons, h]
    · split
      · rename_i e; subst e; simp [get?_cons, h]
      · simp [get?_cons, ih]

/-- a later pair with the same key wins -/
def ofList (l : List (κ × α)) : Entries κ α :=
  l.foldl (fun m p => insert p.1 p.2 m) []

theorem ofList_append_singleton (l : List (κ × α)) (p : κ × α) :
    ofList (l ++ [p]) = insert p.1 p.2 (ofList l) := by
  simp [ofList, List.foldl_append]

end

/-! ## the order -/

section
variable [LT κ]

def Ascending (l : Entries κ α) : Prop := l.Pairwise (fun p q => p.1 < q.1)

theorem ascending_nil : Ascending ([] : Entries κ α) := List.Pairwise.nil

theorem ascending_cons {p : κ × α} {l : Entries κ α} :
    Ascending (p :: l) ↔ (∀ q ∈ l, p.1 < q.1) ∧ Ascending l := List.pairwise_cons

instance [DecidableLT κ] (l : Entries κ α) : Decidable (Ascending l) :=
  inferInstanceAs (Decidable (l.Pairwise _))

end

section
variable [DecidableEq κ] [LT κ]

theorem ascending_erase (k : κ) {l : Entries κ α} (h : Ascending l) :
    Ascending (erase k l) := by
  induction l with
  | nil => exact h
  | cons p r ih =>
    obtain ⟨k', v'⟩ := p
    obtain ⟨h1, h2⟩ := ascending_cons.1 h
    rw [erase_cons]
    split
    · exact ih h2
    · exact ascending_cons.2 ⟨fun q hq => h1 q (mem_erase.1 hq).1, ih h2⟩

end

/-- What the keys' order must satisfy for sorted lists to make sense. -/
class KeyOrder (κ : Type) [LT κ] : Prop where
  irrefl : ∀ a : κ, ¬a < a
  trans : ∀ {a b c : κ}, a < b → b < c → a < c
  connex : ∀ {a b : κ}, ¬a < b → a ≠ b → b < a

instance : KeyOrder String where
  irrefl := String.lt_irrefl
  trans := String.lt_trans
  connex := fun {_ _} h n =>
    Decidable.byContradiction fun h' =>
      n (String.le_antisymm (String.not_lt.1 h') (String.not_lt.1 h))

instance : KeyOrder Nat where
  irrefl := Nat.lt_irrefl
  trans := Nat.lt_trans
  connex := fun h n => by omega

instance (n : Nat) : KeyOrder (Fin n) where
  irrefl := fun a => Nat.lt_irrefl a.val
  trans := Nat.lt_trans
  connex := fun {a b} h n => by
    have : a.val ≠ b.val := fun e => n (Fin.ext e)
    rw [Fin.lt_def] at *
    omega

instance : KeyOrder UInt8 where
  irrefl := UInt8.lt_irrefl
  trans := UInt8.lt_trans
  connex := fun {a b} h n => by
    have : a.toNat ≠ b.toNat := fun e => n (UInt8.toNat_inj.1 e)
    rw [UInt8.lt_iff_toNat_lt] at *
    omega

section
variable [DecidableEq κ] [LT κ] [DecidableLT κ]

theorem mem_insert {k : κ} {v : α} {p : κ × α} {l : Entries κ α}
    (h : p ∈ insert k v l) : p = (k, v) ∨ p ∈ l := by
  induction l with
  | nil => simpa [insert_nil] using h
  | cons q r ih =>
    obtain ⟨k', v'⟩ := q
    rw [insert_cons] at h
    split at h
    · grind
    · split at h <;> grind

/-- A value that was just put in gives way to the next one. -/
theorem insert_insert_self [KeyOrder κ] (k : κ) (v w : α) (l : Entries κ α) :
    insert k v (insert k w l) = insert k v l := by
  have hhead : ∀ r : Entries κ α, insert k v ((k, w) :: r) = (k, v) :: r := fun r => by
    rw [insert_cons, if_neg (KeyOrder.irrefl k), if_pos rfl]
  induction l with
  | nil => exact hhead []
  | cons p r ih =>
    obtain ⟨k', v'⟩ := p
    rw [insert_cons k k' w, insert_cons k k' v]
    split
    · exact hhead _
    · rename_i hk
      split
      · exact hhead r
      · rename_i hn
        rw [insert_cons, if_neg hk, if_neg hn, ih]

theorem ascending_insert [KeyOrder κ] (k : κ) (v : α) {l : Entries κ α} (h : Ascending l) :
    Ascending (insert k v l) := by
  induction l with
  | nil => simp [insert_nil, Ascending]
  | cons p r ih =>
    obtain ⟨k', v'⟩ := p
    obtain ⟨h1, h2⟩ := ascending_cons.1 h
    rw [insert_cons]
    split
    · rename_i hk
      exact ascending_cons.2 ⟨fun q hq => by
        rcases List.mem_cons.1 hq with rfl | hq
        · exact hk
        · exact KeyOrder.trans hk (h1 q hq), h⟩
    · rename_i hk
      split
      · rename_i e; subst e
        exact ascending_cons.2 ⟨h1, h2⟩
      · rename_i hn
        refine ascending_cons.2 ⟨fun q hq => ?_, ih h2⟩
        rcases mem_insert hq with rfl | hq
        · exact KeyOrder.connex hk hn
        · exact h1 q hq

theorem ascending_foldl_insert [KeyOrder κ] (l : List (κ × α)) {m : Entries κ α}
    (h : Ascending m) : Ascending (l.foldl (fun m p => insert p.1 p.2 m) m) := by
  induction l generalizing m with
  | nil => exact h
  | cons p r ih => exact ih (ascending_insert p.1 p.2 h)

theorem ascending_ofList [KeyOrder κ] (l : List (κ × α)) : Ascending (ofList l) :=
  ascending_foldl_insert l ascending_nil

theorem insert_of_greatest [KeyOrder κ] {k : κ} {m : Entries κ α} (v : α)
    (h : ∀ p ∈ m, p.1 < k) : insert k v m = m ++ [(k, v)] := by
  induction m with
  | nil => rfl
  | cons p r ih =>
    obtain ⟨k', v'⟩ := p
    have hk : k' < k := h (k', v') (by simp)
    have h1 : ¬k < k' := fun h' => KeyOrder.irrefl k (KeyOrder.trans h' hk)
    have h2 : k ≠ k' := fun e => KeyOrder.irrefl k (by rw [← e] at hk; exact hk)
    rw [insert_cons, if_neg h1, if_neg h2, ih fun p hp => h p (by simp [hp])]
    rfl

theorem foldl_insert_of_ascending [KeyOrder κ] {l m : Entries κ α} (h : Ascending (m ++ l)) :
    l.foldl (fun m p => insert p.1 p.2 m) m = m ++ l := by
  induction l generalizing m with
  | nil => simp
  | cons p r ih =>
    obtain ⟨_, _, hp⟩ := List.pairwise_append.1 h
    have hm : ∀ q ∈ m, q.1 < p.1 := fun q hq => hp q hq p (by simp)
    rw [List.foldl_cons, insert_of_greatest p.2 hm, ih (by simpa using h)]
    simp

/-- a list already in order is what is built from it -/
theorem ofList_of_ascending [KeyOrder κ] {l : Entries κ α} (h : Ascending l) : ofList l = l :=
  by simpa [ofList] using foldl_insert_of_ascending (by simpa using h : Ascending ([] ++ l))

end

end Entries

end Flattening
