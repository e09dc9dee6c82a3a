/-
# Insertion-ordered entries

A mapping is a list of entries in the order in which its keys were first written.  Writing a
key again keeps its place and replaces its value; reading takes the first entry of a key.

The view of a list of entries is its reading function, `get?`; each operation has one lemma
that says what it does to that view, and `keys_insert` says what writing does to the order.
-/

namespace Reshape

/-- Keys with values, in the order of first writing. -/
abbrev Entries (α : Type u) := List (String × α)

namespace Entries

variable {α : Type u} {β : Type v}

/-! ## 1. Reading -/

/-- The value under `key`. -/
def get? (key : String) : Entries α → Option α
  | [] => none
  | (k, v) :: es => if k = key then some v else get? key es

/-- Is there an entry for `key`? -/
def contains (key : String) (es : Entries α) : Bool := (get? key es).isSome

/-- The keys, in order. -/
def keys (es : Entries α) : List String := es.map Prod.fst

/-- The values, in order. -/
def values (es : Entries α) : List α := es.map Prod.snd

/-- No key has two entries. -/
def Distinct (es : Entries α) : Prop := (keys es).Nodup

@[simp] theorem get?_nil (key : String) : get? key ([] : Entries α) = none := rfl

@[simp] theorem get?_cons (key k : String) (v : α) (es : Entries α) :
    get? key ((k, v) :: es) = if k = key then some v else get? key es := rfl

@[simp] theorem keys_nil : keys ([] : Entries α) = [] := rfl

@[simp] theorem keys_cons (k : String) (v : α) (es : Entries α) :
    keys ((k, v) :: es) = k :: keys es := rfl

theorem get?_eq_none_iff {key : String} {es : Entries α} :
    get? key es = none ↔ key ∉ keys es := by
  induction es with
  | nil => simp
  | cons e es ih =>
    obtain ⟨k, v⟩ := e
    by_cases h : k = key
    · simp [h]
    · have h' : key ≠ k := fun e => h e.symm
      simp [h, h', ih]

theorem mem_of_get? {key : String} {v : α} {es : Entries α} (h : get? key es = some v) :
    (key, v) ∈ es := by
  induction es with
  | nil => simp at h
  | cons e es ih =>
    obtain ⟨k, w⟩ := e
    by_cases hk : k = key
    · simp_all
    · simp [hk] at h; simp [ih h]

theorem contains_iff {key : String} {es : Entries α} : contains key es = true ↔ key ∈ keys es := by
  cases h : get? key es with
  | none => simpa [contains, h] using get?_eq_none_iff.mp h
  | some v =>
    have hmem : key ∈ keys es := List.mem_map.mpr ⟨_, mem_of_get? h, rfl⟩
    simpa [contains, h] using hmem

/-! ## 2. Writing -/

/-- Writes `value` under `key`: in place if the key is there, at the end otherwise. -/
def insert (key : String) (value : α) : Entries α → Entries α
  | [] => [(key, value)]
  | (k, v) :: es => if k = key then (k, value) :: es else (k, v) :: insert key value es

/-- Writes a list of entries one after the other. -/
def insertAll (es news : Entries α) : Entries α :=
  news.foldl (fun acc e => insert e.1 e.2 acc) es

/-- The mapping that a list of entries writes: a repeated key keeps its first place and
takes its last value. -/
def ofList (news : Entries α) : Entries α := insertAll [] news

/-- Removes the first entry of `key`. -/
theorem get?_insert (key k : String) (v : α) (es : Entries α) :
    get? key (insert k v es) = if k = key then some v else get? key es := by
  induction es with
  | nil => rfl
  | cons e es ih =>
    obtain ⟨k', v'⟩ := e
    by_cases h : k' = k
    · by_cases hk : k = key <;> simp [insert, h, hk]
    · by_cases hk : k' = key
      · have hkey : ¬key = k := fun e => h (hk.trans e)
        have hk' : k ≠ key := fun e => hkey e.symm
        simp [insert, hk, hkey, hk']
      · simp [insert, h, hk, ih]

theorem keys_insert (k : String) (v : α) (es : Entries α) :
    keys (insert k v es) = if k ∈ keys es then keys es else keys es ++ [k] := by
  induction es with
  | nil => rfl
  | cons e es ih =>
    obtain ⟨k', v'⟩ := e
    by_cases h : k' = k
    · simp [insert, h]
    · have h' : k ≠ k' := fun e => h e.symm
      by_cases hm : k ∈ keys es <;> simp_all [insert]

theorem Distinct.insert {es : Entries α} (h : Distinct es) (k : String) (v : α) :
    Distinct (es.insert k v) := by
  simp only [Distinct, keys_insert]
  split
  · exact h
  · next hm =>
    refine List.nodup_append.mpr ⟨h, by simp, ?_⟩
    intro a ha b hb e
    exact hm (by simp_all)

theorem Distinct.insertAll {es : Entries α} (h : Distinct es) (news : Entries α) :
    Distinct (es.insertAll news) := by
  induction news generalizing es with
  | nil => exact h
  | cons e news ih => exact ih (h.insert e.1 e.2)

theorem distinct_ofList (news : Entries α) : Distinct (ofList news) :=
  have h : Distinct ([] : Entries α) := List.nodup_nil
  h.insertAll news

/-! ## 3. Entries grouped by key -/

/-- Adds a value to the group of a key. -/
def addTo (key : String) (value : α) : Entries (List α) → Entries (List α)
  | [] => [(key, [value])]
  | (k, vs) :: es => if k = key then (k, vs ++ [value]) :: es else (k, vs) :: addTo key value es

/-- The values of each key, in order, under the keys in the order of their first entries. -/
def group (es : Entries α) : Entries (List α) :=
  es.foldl (fun gs e => addTo e.1 e.2 gs) []

/-! ## 4. Entries sorted by key -/

/-- Puts an entry in front of the first entry whose key is not smaller. -/
def insertSorted (key : String) (value : α) : Entries α → Entries α
  | [] => [(key, value)]
  | (k, v) :: es => if k < key then (k, v) :: insertSorted key value es else (key, value) :: (k, v) :: es

/-- The entries by increasing key; entries of one key keep their order. -/
def sortByKey : Entries α → Entries α
  | [] => []
  | (k, v) :: es => insertSorted k v (sortByKey es)

theorem insertSorted_perm (key : String) (value : α) (es : Entries α) :
    (insertSorted key value es).Perm ((key, value) :: es) := by
  induction es with
  | nil => exact .refl _
  | cons e es ih =>
    obtain ⟨k, v⟩ := e
    by_cases h : k < key
    · simp only [insertSorted, h, if_true]
      exact (ih.cons _).trans (.swap _ _ _)
    · simp only [insertSorted, h, if_false]; exact .refl _

theorem sortByKey_perm (es : Entries α) : (sortByKey es).Perm es := by
  induction es with
  | nil => exact .refl _
  | cons e es ih => exact (insertSorted_perm e.1 e.2 _).trans (ih.cons _)

theorem get?_insertSorted (key k : String) (v : α) (es : Entries α) :
    get? key (insertSorted k v es) = if k = key then some v else get? key es := by
  induction es with
  | nil => rfl
  | cons e es ih =>
    obtain ⟨k', v'⟩ := e
    by_cases h : k' < k
    · simp only [insertSorted, h, if_true, get?_cons, ih]
      by_cases hk : k' = key
      · have : k ≠ key := fun e => String.lt_irrefl k' (by rw [hk, ← e] at h ⊢; exact h)
        simp [hk, this]
      · simp [hk]
    · simp [insertSorted, h]

/-- Sorting changes no reading. -/
@[simp] theorem get?_sortByKey (key : String) (es : Entries α) :
    get? key (sortByKey es) = get? key es := by
  induction es with
  | nil => rfl
  | cons e es ih => rw [sortByKey, get?_insertSorted, ih]; rfl

end Entries

end Reshape
