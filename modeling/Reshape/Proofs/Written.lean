/-
# What a list of entries writes

`Entries.ofList` writes entries one after the other.  `Written news es` says what has been
written without saying how: the keys stand in the order in which they were first written, and
each key has the value that was written under it last.  There is one such mapping
(`Written.unique`), and `ofList` is it (`written_ofList`).

What was written last under a key is the last item with that key (`IsLast`) of what was written;
where nothing is written twice, writing changes nothing (`ofList_of_distinct`).
-/
import Mathlib.Data.List.Induction
import Reshape.Entries

namespace Reshape.Entries

variable {α : Type u}

/-- The mapping `es` is what writing the entries `news` comes to. -/
structure Written (news es : Entries α) : Prop where
  /-- Keys keep the places of their first writing. -/
  keys : keys es = (Entries.keys news).eraseDups
  /-- Every key has the value of its last writing. -/
  get? (key : String) : get? key es = Entries.get? key news.reverse

/-! ## 1. Writing in order -/

theorem ofList_append_singleton (news : Entries α) (k : String) (v : α) :
    ofList (news ++ [(k, v)]) = insert k v (ofList news) := by
  rw [ofList, insertAll, List.foldl_append]
  rfl

theorem keys_ofList (news : Entries α) : keys (ofList news) = (keys news).eraseDups := by
  induction news using List.reverseRecOn with
  | nil => rfl
  | append_singleton news entry ih =>
    obtain ⟨k, v⟩ := entry
    have hkeys : keys (news ++ [(k, v)]) = keys news ++ [k] := List.map_append
    rw [ofList_append_singleton, keys_insert, ih, hkeys, List.eraseDups_append]
    by_cases hk : k ∈ keys news
    · have hdup : [k].removeAll (keys news) = [] := by simp [List.removeAll, hk]
      rw [if_pos (List.mem_eraseDups.mpr hk), hdup, List.eraseDups_nil, List.append_nil]
    · have hnew : [k].removeAll (keys news) = [k] := by simp [List.removeAll, hk]
      rw [if_neg fun h => hk (List.mem_eraseDups.mp h), hnew]
      rfl

theorem get?_ofList (key : String) (news : Entries α) :
    get? key (ofList news) = get? key news.reverse := by
  induction news using List.reverseRecOn with
  | nil => rfl
  | append_singleton news entry ih =>
    obtain ⟨k, v⟩ := entry
    rw [ofList_append_singleton, get?_insert, ih, List.reverse_append, List.reverse_singleton,
      List.singleton_append, get?_cons]

theorem written_ofList (news : Entries α) : Written news (ofList news) :=
  ⟨keys_ofList news, fun key => get?_ofList key news⟩

/-! ## 2. One mapping -/

/-- Mappings with the same keys in the same order that read alike are the same. -/
theorem eq_of_get? {es fs : Entries α} (hd : Distinct es) (hkeys : keys es = keys fs)
    (hget : ∀ key, get? key es = get? key fs) : es = fs := by
  induction es generalizing fs with
  | nil => exact (List.map_eq_nil_iff.mp hkeys.symm).symm
  | cons entry es ih =>
    obtain ⟨k, v⟩ := entry
    cases fs with
    | nil => cases hkeys
    | cons entry' fs =>
      obtain ⟨k', w⟩ := entry'
      obtain ⟨rfl, htail⟩ := List.cons.inj hkeys
      obtain ⟨hk, hd'⟩ := List.nodup_cons.mp hd
      have hv : v = w := by simpa using hget k
      -- past its head each side reads alike: neither has the key of the head once more
      have hrest : ∀ key, get? key es = get? key fs := by
        intro key
        by_cases h : k = key
        · subst h
          have hk' : k ∉ keys fs := fun h => hk (htail ▸ h)
          rw [get?_eq_none_iff.mpr hk, get?_eq_none_iff.mpr hk']
        · simpa [h] using hget key
      rw [hv, ih hd' htail hrest]

theorem Written.eq_ofList {news es : Entries α} (h : Written news es) : es = ofList news := by
  refine (eq_of_get? (distinct_ofList news) ?_ ?_).symm
  · rw [h.keys, keys_ofList]
  · intro key
    rw [h.get?, get?_ofList]

theorem Written.unique {news es fs : Entries α} (h : Written news es) (h' : Written news fs) :
    es = fs :=
  h.eq_ofList.trans h'.eq_ofList.symm

theorem get?_append (key : String) (es fs : Entries α) :
    get? key (es ++ fs) = (get? key es).or (get? key fs) := by
  induction es with
  | nil => rfl
  | cons entry es ih =>
    obtain ⟨k, v⟩ := entry
    by_cases hk : k = key
    · simp [hk]
    · simp [hk, ih]

/-- What stands under a key depends on what was written under it. -/
theorem get?_ofList_filter (key : String) (news : Entries α) :
    get? key (ofList news) = get? key (ofList (news.filter fun entry => entry.1 = key)) := by
  rw [get?_ofList, get?_ofList, ← List.filter_reverse]
  induction news.reverse with
  | nil => rfl
  | cons entry es ih =>
    obtain ⟨k, v⟩ := entry
    by_cases hk : k = key
    · simp [hk]
    · simp [hk, ih]

/-- What is written under one key is not read under another. -/
theorem get?_ofList_append_cons {key k : String} (h : k ≠ key) (v : α) (es fs : Entries α) :
    get? key (ofList (es ++ (k, v) :: fs)) = get? key (ofList (es ++ fs)) := by
  have hfilter : (es ++ (k, v) :: fs).filter (fun entry => entry.1 = key) =
      (es ++ fs).filter fun entry => entry.1 = key := by
    simp [h]
  rw [get?_ofList_filter, hfilter, ← get?_ofList_filter]

theorem filter_eq_nil_of_not_mem_keys {key : String} {es : Entries α} (h : key ∉ keys es) :
    (es.filter fun entry => entry.1 = key) = [] := by
  refine List.filter_eq_nil_iff.mpr fun entry hentry hk => h ?_
  exact List.mem_map.mpr ⟨entry, hentry, of_decide_eq_true hk⟩

/-- What is written under a key once is read there. -/
theorem get?_ofList_append_cons_self {k : String} {es fs : Entries α} (h : k ∉ keys (es ++ fs))
    (v : α) : get? k (ofList (es ++ (k, v) :: fs)) = some v := by
  have hnone := filter_eq_nil_of_not_mem_keys h
  have hself : (es ++ (k, v) :: fs).filter (fun entry => entry.1 = k) = [(k, v)] := by
    rw [List.filter_append, List.append_eq_nil_iff] at hnone
    simp [hnone.1, hnone.2]
  rw [get?_ofList_filter, hself]
  exact if_pos rfl

theorem exists_get?_of_mem_keys {es : Entries α} {key : String} (h : key ∈ keys es) :
    ∃ v, get? key es = some v := by
  cases hget : get? key es with
  | some v => exact ⟨v, rfl⟩
  | none => exact absurd h (get?_eq_none_iff.mp hget)

theorem mem_keys_of_get? {es : Entries α} {key : String} {v : α} (h : get? key es = some v) :
    key ∈ keys es :=
  List.mem_map.mpr ⟨(key, v), mem_of_get? h, rfl⟩

/-! ## 3. Entries without a repeated key -/

theorem get?_eq_some_iff {es : Entries α} (hd : Distinct es) {key : String} {v : α} :
    get? key es = some v ↔ (key, v) ∈ es := by
  refine ⟨mem_of_get?, fun h => ?_⟩
  induction es with
  | nil => cases h
  | cons entry es ih =>
    obtain ⟨k, w⟩ := entry
    obtain ⟨hk, hd'⟩ := List.nodup_cons.mp hd
    rcases List.mem_cons.mp h with he | h
    · cases he
      exact if_pos rfl
    · have hne : k ≠ key := by
        rintro rfl
        exact hk (List.mem_map.mpr ⟨(k, v), h, rfl⟩)
      rw [get?_cons, if_neg hne, ih hd' h]

theorem insert_of_not_mem {es : Entries α} {k : String} (h : k ∉ keys es) (v : α) :
    insert k v es = es ++ [(k, v)] := by
  induction es with
  | nil => rfl
  | cons entry es ih =>
    obtain ⟨k', w⟩ := entry
    rw [keys_cons, List.mem_cons, not_or] at h
    have hne : k' ≠ k := fun he => h.1 he.symm
    rw [insert, if_neg hne, ih h.2]
    rfl

/-- Writing entries without a repeated key makes a copy. -/
theorem ofList_of_distinct {es : Entries α} (hd : Distinct es) : ofList es = es := by
  induction es using List.reverseRecOn with
  | nil => rfl
  | append_singleton es entry ih =>
    obtain ⟨k, v⟩ := entry
    have hkeys : keys (es ++ [(k, v)]) = keys es ++ [k] := List.map_append
    rw [Distinct, hkeys, List.nodup_append] at hd
    obtain ⟨hes, -, hk⟩ := hd
    have hnew : k ∉ keys es := fun h => hk k h k List.mem_cons_self rfl
    rw [ofList_append_singleton, ih hes, insert_of_not_mem hnew]

theorem mem_of_mem_ofList {news : Entries α} {entry : String × α} (h : entry ∈ ofList news) :
    entry ∈ news := by
  have hget : get? entry.1 (ofList news) = some entry.2 :=
    (get?_eq_some_iff (distinct_ofList news)).mpr h
  rw [get?_ofList] at hget
  exact List.mem_reverse.mp (mem_of_get? hget)

end Reshape.Entries

/-! ## 4. The last item of a list -/

namespace Reshape

variable {α : Type u} {β : Type v} {P : α → Prop}

/-- An item is the last of those in a list that meet `P`. -/
def IsLast (P : α → Prop) (xs : List α) (x : α) : Prop :=
  ∃ before after, xs = before ++ x :: after ∧ P x ∧ ∀ y ∈ after, ¬P y

theorem IsLast.mem {xs : List α} {x : α} (h : IsLast P xs x) : x ∈ xs := by
  obtain ⟨before, after, rfl, -, -⟩ := h
  exact List.mem_append_right before List.mem_cons_self

theorem IsLast.property {xs : List α} {x : α} (h : IsLast P xs x) : P x := by
  obtain ⟨before, after, rfl, hx, -⟩ := h
  exact hx

theorem isLast_append_singleton {xs : List α} {x y : α} :
    IsLast P (xs ++ [x]) y ↔ P x ∧ y = x ∨ ¬P x ∧ IsLast P xs y := by
  constructor
  · rintro ⟨before, after, hxs, hy, hafter⟩
    induction after using List.reverseRecOn with
    | nil =>
      obtain ⟨-, hxy⟩ := List.append_inj' hxs rfl
      cases hxy
      exact .inl ⟨hy, rfl⟩
    | append_singleton after z _ =>
      rw [← List.cons_append, ← List.append_assoc] at hxs
      obtain ⟨rfl, hz⟩ := List.append_inj' hxs rfl
      cases hz
      exact .inr ⟨hafter x (by simp), before, after, rfl, hy, fun w hw => hafter w (by simp [hw])⟩
  · rintro (⟨hx, rfl⟩ | ⟨hx, before, after, rfl, hy, hafter⟩)
    · exact ⟨xs, [], rfl, hx, by simp⟩
    · refine ⟨before, after ++ [x], by simp, hy, fun w hw => ?_⟩
      rcases List.mem_append.mp hw with hw | hw
      · exact hafter w hw
      · cases List.mem_singleton.mp hw
        exact hx

theorem exists_isLast {xs : List α} (h : ∃ x ∈ xs, P x) : ∃ x, IsLast P xs x := by
  induction xs using List.reverseRecOn with
  | nil => simp at h
  | append_singleton xs y ih =>
    simp only [isLast_append_singleton]
    by_cases hy : P y
    · exact ⟨y, .inl ⟨hy, rfl⟩⟩
    · obtain ⟨x, hx, hPx⟩ := h
      rcases List.mem_append.mp hx with hx | hx
      · obtain ⟨z, hz⟩ := ih ⟨x, hx, hPx⟩
        exact ⟨z, .inr ⟨hy, hz⟩⟩
      · cases List.mem_singleton.mp hx
        exact absurd hPx hy

/-- The last of what items are made into is made of the last item that is made into such. -/
theorem isLast_filterMap {f : α → Option β} {Q : β → Prop} {xs : List α} {y : β} :
    IsLast Q (xs.filterMap f) y ↔
      ∃ x, IsLast (fun x => ∃ b, f x = some b ∧ Q b) xs x ∧ f x = some y := by
  induction xs using List.reverseRecOn with
  | nil =>
    constructor
    · intro h
      cases h.mem
    · rintro ⟨x, hx, -⟩
      cases hx.mem
  | append_singleton xs x ih =>
    rw [List.filterMap_append]
    cases hx : f x with
    | none =>
      have hnone : [x].filterMap f = [] := by simp [hx]
      simp [hnone, ih, isLast_append_singleton, hx]
    | some b =>
      have hsome : [x].filterMap f = [b] := by simp [hx]
      rw [hsome, isLast_append_singleton, ih]
      simp only [isLast_append_singleton, hx, Option.some.injEq, exists_eq_left']
      constructor
      · rintro (⟨hb, rfl⟩ | ⟨hb, z, hz, hzy⟩)
        · exact ⟨x, .inl ⟨hb, rfl⟩, hx⟩
        · exact ⟨z, .inr ⟨hb, hz⟩, hzy⟩
      · rintro ⟨z, ⟨hb, rfl⟩ | ⟨hb, hz⟩, hzy⟩
        · exact .inl ⟨hb, Option.some.inj (hzy.symm.trans hx)⟩
        · exact .inr ⟨hb, z, hz, hzy⟩

/-- What was written last under a key comes from the last item with that key. -/
theorem Entries.get?_reverse_map {f : α → String × β} {xs : List α} {key : String} {v : β} :
    Entries.get? key (xs.map f).reverse = some v ↔
      ∃ x, IsLast (fun x => (f x).1 = key) xs x ∧ (f x).2 = v := by
  induction xs using List.reverseRecOn with
  | nil =>
    constructor
    · intro h
      cases h
    · rintro ⟨x, hx, -⟩
      cases hx.mem
  | append_singleton xs x ih =>
    have hread : Entries.get? key ((xs ++ [x]).map f).reverse =
        if (f x).1 = key then some (f x).2 else Entries.get? key (xs.map f).reverse := by
      rw [List.map_append, List.reverse_append]
      rfl
    simp only [hread, isLast_append_singleton]
    by_cases hk : (f x).1 = key
    · simp [hk]
    · simp [hk, ih]

/-- A mapping is what items write if it has their keys and, under the key of an item that is the
last one with its key, the value of that item. -/
theorem Entries.Written.of_isLast {f : α → String × β} {xs : List α} {es : Entries β}
    (hkeys : Entries.keys es = (xs.map fun x => (f x).1).eraseDups)
    (hlast : ∀ x, IsLast (fun y => (f y).1 = (f x).1) xs x →
      Entries.get? (f x).1 es = some (f x).2) :
    Entries.Written (xs.map f) es := by
  refine ⟨by rw [hkeys, Entries.keys, List.map_map]; rfl, fun key => Option.ext fun w => ?_⟩
  rw [Entries.get?_reverse_map]
  constructor
  · intro hw
    have hmem := Entries.mem_keys_of_get? hw
    rw [hkeys, List.mem_eraseDups] at hmem
    obtain ⟨x, hx⟩ := exists_isLast (List.mem_map.mp hmem)
    obtain rfl := hx.property
    exact ⟨x, hx, Option.some.inj ((hlast x hx).symm.trans hw)⟩
  · rintro ⟨x, hx, rfl⟩
    obtain rfl := hx.property
    exact hlast x hx

end Reshape
