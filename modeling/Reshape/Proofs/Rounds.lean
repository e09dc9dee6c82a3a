/-
# Entries that are written in rounds

A node that maps the same fields against one candidate after the other writes the same keys in
every round.  Written over each other, all that is left is the last round (`ofList_rounds`): it
has every key, and the keys stand in the order of the first round, which is its own.  Collected
by key (`group`), each key has what all rounds wrote under it, round by round
(`get?_group_flatten`).
-/
import Reshape.Proofs.Written

namespace Reshape.Entries

variable {α : Type u} {es fs : Entries α} {key : String}

/-! ## 1. Keys that come again -/

/-- What has come before may be left out. -/
theorem eraseDups_append_append_of_subset {xs ys : List String} (h : ys ⊆ xs) (zs : List String) :
    (xs ++ (ys ++ zs)).eraseDups = (xs ++ zs).eraseDups := by
  have hnone : ys.removeAll xs = [] := by
    rw [List.removeAll, List.filter_eq_nil_iff]
    intro y hy
    simpa using h hy
  have hskip : (ys ++ zs).removeAll xs = zs.removeAll xs := by
    rw [List.removeAll] at hnone ⊢
    rw [List.filter_append, hnone, List.nil_append, List.removeAll]
  rw [List.eraseDups_append, List.eraseDups_append, hskip]

theorem eraseDups_append_of_subset {xs ys : List String} (h : ys ⊆ xs) :
    (xs ++ ys).eraseDups = xs.eraseDups := by
  simpa using eraseDups_append_append_of_subset h []

/-- Rounds of the same names, some of them left out, bring up the names of the last round in their
order. -/
theorem eraseDups_rounds {rounds : List (List String)} {names : List String}
    (h : ∀ r ∈ rounds, r = [] ∨ r = names) :
    (rounds.flatten ++ names).eraseDups = names.eraseDups := by
  induction rounds with
  | nil => rfl
  | cons r rounds ih =>
    have hrest : ∀ s ∈ rounds, s = [] ∨ s = names := fun s hs => h s (List.mem_cons_of_mem r hs)
    rcases h r List.mem_cons_self with rfl | rfl
    · exact ih hrest
    · rw [List.flatten_cons, List.append_assoc]
      refine eraseDups_append_of_subset fun x hx => ?_
      rcases List.mem_append.mp hx with hx | hx
      · obtain ⟨s, hs, hxs⟩ := List.mem_flatten.mp hx
        rcases hrest s hs with rfl | rfl
        · cases hxs
        · exact hxs
      · exact hx

theorem keys_append (es fs : Entries α) : keys (es ++ fs) = keys es ++ keys fs := List.map_append

theorem keys_flatten (rounds : List (Entries α)) :
    keys rounds.flatten = (rounds.map keys).flatten := List.map_flatten

/-- Rounds that write the keys of the last one, or nothing, bring up its keys in their order. -/
theorem eraseDups_keys_rounds {rounds : List (Entries α)} {last : Entries α}
    (h : ∀ r ∈ rounds, r = [] ∨ keys r = keys last) :
    (keys (rounds.flatten ++ last)).eraseDups = (keys last).eraseDups := by
  rw [keys_append, keys_flatten]
  refine eraseDups_rounds fun r hr => ?_
  obtain ⟨es, hes, rfl⟩ := List.mem_map.mp hr
  rcases h es hes with rfl | hkeys
  · exact .inl rfl
  · exact .inr hkeys

/-! ## 2. Rounds written over each other -/

theorem get?_append_of_mem_keys (h : key ∈ keys es) : get? key (es ++ fs) = get? key es := by
  obtain ⟨v, hv⟩ := exists_get?_of_mem_keys h
  rw [get?_append, hv, Option.some_or]

theorem mem_keys_reverse : key ∈ keys es.reverse ↔ key ∈ keys es := by
  simp [keys]

/-- **The last round replaces all before it.** -/
theorem ofList_rounds {rounds : List (Entries α)} {last : Entries α}
    (h : ∀ r ∈ rounds, r = [] ∨ keys r = keys last) :
    ofList (rounds.flatten ++ last) = ofList last := by
  have hsubset : ∀ key, key ∈ keys (rounds.flatten ++ last) → key ∈ keys last := by
    intro key hkey
    rw [← List.mem_eraseDups, eraseDups_keys_rounds h] at hkey
    exact List.mem_eraseDups.mp hkey
  refine (Written.eq_ofList ⟨?_, fun key => ?_⟩).symm
  · rw [keys_ofList, eraseDups_keys_rounds h]
  · rw [get?_ofList, List.reverse_append]
    by_cases hkey : key ∈ keys last
    · rw [get?_append_of_mem_keys (mem_keys_reverse.mpr hkey)]
    · have hnone : key ∉ keys (last.reverse ++ rounds.flatten.reverse) := by
        rw [← List.reverse_append, mem_keys_reverse]
        exact fun hmem => hkey (hsubset key hmem)
      rw [get?_eq_none_iff.mpr hnone, get?_eq_none_iff.mpr (mt mem_keys_reverse.mp hkey)]

/-! ## 3. Rounds collected by key -/

/-- The values of a key, in order. -/
def valuesOf (key : String) (es : Entries α) : List α :=
  (es.filter fun entry => entry.1 = key).map Prod.snd

theorem valuesOf_append (key : String) (es fs : Entries α) :
    valuesOf key (es ++ fs) = valuesOf key es ++ valuesOf key fs := by
  simp [valuesOf]

theorem valuesOf_flatten (key : String) (rounds : List (Entries α)) :
    valuesOf key rounds.flatten = rounds.flatMap (valuesOf key) := by
  induction rounds with
  | nil => rfl
  | cons r rounds ih => rw [List.flatten_cons, valuesOf_append, ih, List.flatMap_cons]

theorem valuesOf_of_not_mem (h : key ∉ keys es) : valuesOf key es = [] := by
  rw [valuesOf, filter_eq_nil_of_not_mem_keys h, List.map_nil]

/-- Adding to a group writes the group anew. -/
theorem addTo_eq_insert (k : String) (v : α) (gs : Entries (List α)) :
    addTo k v gs = insert k ((get? k gs).getD [] ++ [v]) gs := by
  induction gs with
  | nil => rfl
  | cons g gs ih =>
    obtain ⟨k', vs⟩ := g
    by_cases h : k' = k
    · simp [addTo, insert, h]
    · simp [addTo, insert, h, ih]

theorem group_append_singleton (es : Entries α) (k : String) (v : α) :
    group (es ++ [(k, v)]) = addTo k v (group es) := by
  rw [group, List.foldl_append]
  rfl

theorem distinct_group (es : Entries α) : Distinct (group es) := by
  induction es using List.reverseRecOn with
  | nil => exact List.nodup_nil
  | append_singleton es entry ih =>
    rw [group_append_singleton, addTo_eq_insert]
    exact ih.insert _ _

theorem keys_group (es : Entries α) : keys (group es) = (keys es).eraseDups := by
  induction es using List.reverseRecOn with
  | nil => rfl
  | append_singleton es entry ih =>
    obtain ⟨k, v⟩ := entry
    rw [group_append_singleton, addTo_eq_insert, keys_insert, ih, ← keys_ofList,
      ← keys_ofList, ofList_append_singleton, keys_insert]

/-- **Each group has the values of its key, in order.** -/
theorem get?_group (h : key ∈ keys es) : get? key (group es) = some (valuesOf key es) := by
  induction es using List.reverseRecOn with
  | nil => cases h
  | append_singleton es entry ih =>
    obtain ⟨k, v⟩ := entry
    rw [group_append_singleton, addTo_eq_insert, get?_insert, valuesOf_append]
    by_cases hmem : key ∈ keys es
    · rw [ih hmem]
      by_cases hk : key = k
      · subst hk
        rw [if_pos rfl, ih hmem]
        simp [valuesOf]
      · have hk' : k ≠ key := fun e => hk e.symm
        simp [valuesOf, hk']
    · have hk : key = k := by
        rw [keys_append, List.mem_append] at h
        rcases h with h | h
        · exact absurd h hmem
        · simpa using h
      subst hk
      have hnone : get? key (group es) = none := by
        rw [get?_eq_none_iff, keys_group, List.mem_eraseDups]
        exact hmem
      rw [if_pos rfl, hnone, valuesOf_of_not_mem hmem]
      simp [valuesOf]

/-- The group of a key in rounds: what each round wrote under it, round by round. -/
theorem get?_group_flatten {rounds : List (Entries α)} (h : key ∈ keys rounds.flatten) :
    get? key (group rounds.flatten) = some (rounds.flatMap (valuesOf key)) := by
  rw [get?_group h, valuesOf_flatten]

end Reshape.Entries
