/-!
Maps from texts to values, kept as entries in strictly ascending order of their keys. Texts are
ordered by code points, which is also the order of their UTF-8 bytes. A map has one representation:
`Dict.ext_get?` says that maps with the same answers to `get?` are equal.
-/
namespace TicketSync

/-- A finite map with its entries in ascending order of the keys. -/
structure Dict (α : Type) where
  entries : List (String × α)
  ascending : entries.Pairwise (fun a b => a.1 < b.1)

namespace Dict

variable {α β : Type}

@[ext] theorem ext {d e : Dict α} (h : d.entries = e.entries) : d = e := by
  cases d; cases e; cases h; rfl

instance [DecidableEq α] : DecidableEq (Dict α) := fun d e =>
  if h : d.entries = e.entries then .isTrue (ext h) else .isFalse fun he => h (he ▸ rfl)

/-- The map without entries. -/
def empty : Dict α := ⟨[], .nil⟩

instance : Inhabited (Dict α) := ⟨empty⟩
instance : EmptyCollection (Dict α) := ⟨empty⟩

/-- The first value filed under a key. -/
def find (k : String) : List (String × α) → Option α
  | [] => none
  | (k', v) :: rest => if k' = k then some v else find k rest

/-- The entries with `v` under `k`, in place of what was there. -/
def put (k : String) (v : α) : List (String × α) → List (String × α)
  | [] => [(k, v)]
  | (k', v') :: rest =>
    if k < k' then (k, v) :: (k', v') :: rest
    else if k = k' then (k, v) :: rest
    else (k', v') :: put k v rest

theorem mem_put {k : String} {v : α} {l : List (String × α)} {e : String × α}
    (h : e ∈ put k v l) : e = (k, v) ∨ e ∈ l := by
  induction l with
  | nil => simpa [put] using h
  | cons x rest ih =>
    obtain ⟨k', v'⟩ := x
    simp only [put] at h
    split at h
    · simpa using h
    · split at h
      · rcases List.mem_cons.1 h with h | h
        · exact .inl h
        · exact .inr (List.mem_cons_of_mem _ h)
      · rcases List.mem_cons.1 h with h | h
        · exact .inr (h ▸ List.mem_cons_self)
        · exact (ih h).imp id (List.mem_cons_of_mem _)

private theorem lt_of_not_lt_of_ne {a b : String} (h : ¬a < b) (hne : a ≠ b) : b < a := by
  have hle : b ≤ a := String.not_lt.1 h
  by_cases hba : b < a
  · exact hba
  · exact absurd (String.le_antisymm (String.not_lt.1 hba) hle) hne

theorem put_ascending (k : String) (v : α) {l : List (String × α)}
    (h : l.Pairwise (fun a b => a.1 < b.1)) :
    (put k v l).Pairwise (fun a b => a.1 < b.1) := by
  induction l with
  | nil => simp [put]
  | cons x rest ih =>
    obtain ⟨k', v'⟩ := x
    rw [List.pairwise_cons] at h
    simp only [put]
    split
    · next hk =>
      refine .cons (fun e he => ?_) (.cons h.1 h.2)
      rcases List.mem_cons.1 he with rfl | he
      · exact hk
      · exact String.lt_trans hk (h.1 e he)
    · next hk =>
      split
      · next heq => subst heq; exact .cons h.1 h.2
      · next hne =>
        refine .cons (fun e he => ?_) (ih h.2)
        rcases mem_put he with rfl | he
        · exact lt_of_not_lt_of_ne hk hne
        · exact h.1 e he

/-- The map with `v` under `k`. -/
def insert (d : Dict α) (k : String) (v : α) : Dict α :=
  ⟨put k v d.entries, put_ascending k v d.ascending⟩

/-- The value under a key. -/
def get? (d : Dict α) (k : String) : Option α :=
  find k d.entries

/-- Whether a key has a value. -/
def contains (d : Dict α) (k : String) : Bool :=
  (d.get? k).isSome

/-- The map without the entry under `k`. -/
def erase (d : Dict α) (k : String) : Dict α :=
  ⟨d.entries.filter (fun e => e.1 ≠ k), d.ascending.filter _⟩

/-- The entries whose key and value pass a test. -/
def filter (d : Dict α) (p : String → α → Bool) : Dict α :=
  ⟨d.entries.filter (fun e => p e.1 e.2), d.ascending.filter _⟩

/-- The entries in ascending order of the keys. -/
def toList (d : Dict α) : List (String × α) := d.entries

/-- The keys in ascending order. -/
def keys (d : Dict α) : List String := d.entries.map (·.1)

/-- The values in ascending order of their keys. -/
def values (d : Dict α) : List α := d.entries.map (·.2)

/-- How many entries the map has. -/
def size (d : Dict α) : Nat := d.entries.length

/-- Whether the map has no entry. -/
def isEmpty (d : Dict α) : Bool := d.entries.isEmpty

/-- The map with every value changed. -/
def map (f : α → β) (d : Dict α) : Dict β :=
  ⟨d.entries.map fun e => (e.1, f e.2), List.pairwise_map.2 d.ascending⟩

/-- The map of a list of entries; of several entries under one key the last one counts. -/
def ofList (l : List (String × α)) : Dict α :=
  l.foldl (fun d e => d.insert e.1 e.2) empty

@[simp] theorem get?_empty (k : String) : (empty : Dict α).get? k = none := rfl

theorem find_put (k k' : String) (v : α) (l : List (String × α)) :
    find k' (put k v l) = if k = k' then some v else find k' l := by
  induction l with
  | nil => simp [put, find]
  | cons x rest ih =>
    obtain ⟨a, b⟩ := x
    simp only [put]
    split
    · simp [find]
    · split
      · next h => subst h; by_cases hk : k = k' <;> simp [find, hk]
      · next hne =>
        simp only [find, ih]
        by_cases hk : k = k'
        · subst hk; simp [Ne.symm hne]
        · simp [hk]

theorem get?_insert (d : Dict α) (k k' : String) (v : α) :
    (d.insert k v).get? k' = if k = k' then some v else d.get? k' :=
  find_put k k' v d.entries

@[simp] theorem get?_insert_self (d : Dict α) (k : String) (v : α) :
    (d.insert k v).get? k = some v := by
  simp [get?_insert]

theorem contains_insert (d : Dict α) (k k' : String) (v : α) :
    (d.insert k v).contains k' = true ↔ k = k' ∨ d.contains k' = true := by
  by_cases h : k = k' <;> simp [contains, get?_insert, h]

theorem find_filter (p : String → α → Bool) (k : String) (l : List (String × α))
    (h : l.Pairwise (fun a b => a.1 < b.1)) :
    find k (l.filter fun e => p e.1 e.2) = (find k l).filter (p k) := by
  induction l with
  | nil => rfl
  | cons x rest ih =>
    obtain ⟨a, b⟩ := x
    rw [List.pairwise_cons] at h
    by_cases ha : a = k
    · subst ha
      by_cases hp : p a b
      · simp [find, hp, Option.filter]
      · have hrest : find a (rest.filter fun e => p e.1 e.2) = none := by
          rw [ih h.2]
          have : find a rest = none := by
            clear ih
            induction rest with
            | nil => rfl
            | cons y ys ihy =>
              have hy : a < y.1 := h.1 y List.mem_cons_self
              have hne : y.1 ≠ a := fun he => String.lt_irrefl a (by rw [he] at hy; exact hy)
              simp only [find, hne, if_false]
              exact ihy ⟨fun e he => h.1 e (List.mem_cons_of_mem _ he), (List.pairwise_cons.1 h.2).2⟩
          simp [this]
        simp [find, hp, hrest, Option.filter]
    · by_cases hp : p a b <;> simp [find, hp, ha, ih h.2]

theorem get?_filter (d : Dict α) (p : String → α → Bool) (k : String) :
    (d.filter p).get? k = (d.get? k).filter (p k) :=
  find_filter p k d.entries d.ascending

theorem get?_erase (d : Dict α) (k k' : String) :
    (d.erase k).get? k' = if k = k' then none else d.get? k' := by
  have h := find_filter (fun a _ => decide (a ≠ k)) k' d.entries d.ascending
  show find k' (d.entries.filter fun e => decide (e.1 ≠ k)) = _
  rw [h]
  by_cases hk : k = k'
  · subst hk; cases find k d.entries <;> simp [Option.filter]
  · cases hf : find k' d.entries <;> simp [Option.filter, hk, Ne.symm hk, get?, hf]

theorem find_map (f : α → β) (k : String) (l : List (String × α)) :
    find k (l.map fun e => (e.1, f e.2)) = (find k l).map f := by
  induction l with
  | nil => rfl
  | cons x rest ih =>
    obtain ⟨a, b⟩ := x
    by_cases h : a = k <;> simp [find, h, ih]

@[simp] theorem get?_map (f : α → β) (d : Dict α) (k : String) :
    (d.map f).get? k = (d.get? k).map f :=
  find_map f k d.entries

theorem find_eq_some_of_mem {l : List (String × α)} (h : l.Pairwise (fun a b => a.1 < b.1))
    {k : String} {v : α} (hm : (k, v) ∈ l) : find k l = some v := by
  induction l with
  | nil => cases hm
  | cons x rest ih =>
    rw [List.pairwise_cons] at h
    rcases List.mem_cons.1 hm with rfl | hm
    · simp [find]
    · have hlt : x.1 < k := h.1 _ hm
      have hne : x.1 ≠ k := fun he => String.lt_irrefl k (by rw [he] at hlt; exact hlt)
      simp [find, hne, ih h.2 hm]

theorem mem_of_find_eq_some {l : List (String × α)} {k : String} {v : α}
    (h : find k l = some v) : (k, v) ∈ l := by
  induction l with
  | nil => cases h
  | cons x rest ih =>
    obtain ⟨a, b⟩ := x
    by_cases ha : a = k
    · simp [find, ha] at h; simp [ha, h]
    · simp [find, ha] at h; exact List.mem_cons_of_mem _ (ih h)

/-- The entries are exactly the answers to `get?`. -/
theorem mem_entries_iff (d : Dict α) (k : String) (v : α) :
    (k, v) ∈ d.entries ↔ d.get? k = some v :=
  ⟨find_eq_some_of_mem d.ascending, mem_of_find_eq_some⟩

private theorem eq_of_same_find : {l m : List (String × α)} →
    l.Pairwise (fun a b => a.1 < b.1) → m.Pairwise (fun a b => a.1 < b.1) →
    (∀ k, find k l = find k m) → l = m
  | [], [], _, _, _ => rfl
  | [], (k, v) :: m, _, _, h => by simpa [find] using h k
  | (k, v) :: l, [], _, _, h => by simpa [find] using (h k).symm
  | (k, v) :: l, (k', v') :: m, hl, hm, h => by
    have hl' := List.pairwise_cons.1 hl
    have hm' := List.pairwise_cons.1 hm
    have hk : k = k' := by
      apply Classical.byContradiction
      intro hne
      have h₁ : (k, v) ∈ (k', v') :: m := mem_of_find_eq_some (by rw [← h k]; simp [find])
      have h₂ : (k', v') ∈ (k, v) :: l := mem_of_find_eq_some (by rw [h k']; simp [find])
      rcases List.mem_cons.1 h₁ with he | he
      · exact hne (Prod.ext_iff.1 he).1
      · rcases List.mem_cons.1 h₂ with he' | he'
        · exact hne (Prod.ext_iff.1 he').1.symm
        · exact String.lt_irrefl _ (String.lt_trans (hm'.1 _ he) (hl'.1 _ he'))
    subst hk
    have hv : v = v' := by simpa [find] using h k
    subst hv
    have hrest : l = m := eq_of_same_find hl'.2 hm'.2 fun a => by
      by_cases ha : k = a
      · subst ha
        have hn : ∀ {r : List (String × α)}, (∀ e ∈ r, k < e.1) → find k r = none := by
          intro r hr
          induction r with
          | nil => rfl
          | cons y ys ihy =>
            have hy := hr y List.mem_cons_self
            have hne : y.1 ≠ k := fun he => String.lt_irrefl k (by rw [he] at hy; exact hy)
            simp [find, hne, ihy fun e he => hr e (List.mem_cons_of_mem _ he)]
        rw [hn hl'.1, hn hm'.1]
      · simpa [find, ha] using h a
    rw [hrest]

/-- Maps that answer every key alike are equal. -/
theorem ext_get? {d e : Dict α} (h : ∀ k, d.get? k = e.get? k) : d = e :=
  ext (eq_of_same_find d.ascending e.ascending h)

theorem size_eq_zero_iff (d : Dict α) : d.isEmpty = true ↔ d.size = 0 := by
  simp [isEmpty, size, List.isEmpty_iff]

end Dict
end TicketSync
