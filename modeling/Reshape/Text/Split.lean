/-
# Cutting a text at a separator

`Text.split sep s` cuts `s` at every `sep`, keeping empty parts, and `Text.join sep` puts the
parts together again.  The two are inverse to each other on lists of parts without the
separator (`join_split`, `split_join`), and cutting a text that was put together from two
texts cuts each of them (`split_append`).
-/

namespace Reshape.Text

/-! ## 1. On lists of characters -/

/-- The parts between the separators, in order; at least one. -/
def splitChars (sep : Char) : List Char → List (List Char)
  | [] => [[]]
  | c :: cs =>
    if c = sep then [] :: splitChars sep cs
    else
      match splitChars sep cs with
      | [] => [[c]]
      | p :: ps => (c :: p) :: ps

/-- The parts with one separator between neighbours. -/
def joinChars (sep : Char) : List (List Char) → List Char
  | [] => []
  | [p] => p
  | p :: q :: ps => p ++ sep :: joinChars sep (q :: ps)

variable {sep : Char}

theorem splitChars_ne_nil (cs : List Char) : splitChars sep cs ≠ [] := by
  cases cs with
  | nil => simp [splitChars]
  | cons c cs =>
    by_cases h : c = sep
    · simp [splitChars, h]
    · simp only [splitChars, h, if_false]; split <;> simp

theorem joinChars_cons {p : List Char} {ps : List (List Char)} (h : ps ≠ []) :
    joinChars sep (p :: ps) = p ++ sep :: joinChars sep ps := by
  cases ps with
  | nil => exact absurd rfl h
  | cons q ps => rfl

theorem joinChars_splitChars (cs : List Char) : joinChars sep (splitChars sep cs) = cs := by
  induction cs with
  | nil => rfl
  | cons c cs ih =>
    by_cases h : c = sep
    · simp only [splitChars, h, if_true]
      rw [joinChars_cons (splitChars_ne_nil cs), ih]; rfl
    · simp only [splitChars, h, if_false]
      split
      · next h' => exact absurd h' (splitChars_ne_nil cs)
      · next p ps h' =>
        rw [h'] at ih
        cases ps with
        | nil => simp_all [joinChars]
        | cons q ps => simp_all [joinChars]

theorem splitChars_append (a b : List Char) :
    splitChars sep (a ++ sep :: b) = splitChars sep a ++ splitChars sep b := by
  induction a with
  | nil => simp [splitChars]
  | cons c a ih =>
    by_cases h : c = sep
    · simp [splitChars, h, ih]
    · simp only [List.cons_append, splitChars, h, if_false, ih]
      cases h' : splitChars sep a with
      | nil => exact absurd h' (splitChars_ne_nil a)
      | cons p ps => simp

theorem splitChars_of_not_mem {cs : List Char} (h : sep ∉ cs) : splitChars sep cs = [cs] := by
  induction cs with
  | nil => rfl
  | cons c cs ih =>
    simp only [List.mem_cons, not_or] at h
    have hc : c ≠ sep := fun e => h.1 e.symm
    simp [splitChars, hc, ih h.2]

theorem splitChars_joinChars {ps : List (List Char)} (hne : ps ≠ [])
    (h : ∀ p ∈ ps, sep ∉ p) : splitChars sep (joinChars sep ps) = ps := by
  induction ps with
  | nil => exact absurd rfl hne
  | cons p ps ih =>
    cases ps with
    | nil => exact splitChars_of_not_mem (h p (by simp))
    | cons q ps =>
      rw [joinChars_cons (by simp), splitChars_append, splitChars_of_not_mem (h p (by simp)),
        ih (by simp) (fun r hr => h r (by simp [hr]))]
      rfl

theorem not_mem_of_mem_splitChars {cs p : List Char} (h : p ∈ splitChars sep cs) : sep ∉ p := by
  induction cs generalizing p with
  | nil => simp [splitChars] at h; simp [h]
  | cons c cs ih =>
    by_cases hc : c = sep
    · simp only [splitChars, hc, if_true, List.mem_cons] at h
      rcases h with rfl | h
      · simp
      · exact ih h
    · simp only [splitChars, hc, if_false] at h
      split at h
      · next h' => exact absurd h' (splitChars_ne_nil cs)
      · next q qs h' =>
        rcases List.mem_cons.mp h with rfl | h
        · have := @ih q (by simp [h'])
          simp only [List.mem_cons, not_or]
          exact ⟨fun e => hc e.symm, this⟩
        · exact ih (by simp [h', h])

/-! ## 2. On texts -/

/-- The parts of a text between the separators; at least one. -/
def split (sep : Char) (s : String) : List String :=
  (splitChars sep s.toList).map String.ofList

/-- The parts with one separator between neighbours. -/
def join (sep : Char) (parts : List String) : String :=
  String.ofList (joinChars sep (parts.map String.toList))

theorem split_ne_nil (s : String) : split sep s ≠ [] := by
  simp [split, splitChars_ne_nil]

@[simp] theorem join_split (s : String) : join sep (split sep s) = s := by
  simp [join, split, Function.comp_def, joinChars_splitChars]

theorem split_join {parts : List String} (hne : parts ≠ [])
    (h : ∀ p ∈ parts, sep ∉ p.toList) : split sep (join sep parts) = parts := by
  simp only [join, split, String.toList_ofList]
  rw [splitChars_joinChars (by simpa using hne) (by simpa using h)]
  simp [Function.comp_def]

theorem split_append (a b : String) :
    split sep (a ++ sep.toString ++ b) = split sep a ++ split sep b := by
  simp [split, splitChars_append]

theorem not_mem_of_mem_split {s p : String} (h : p ∈ split sep s) : sep ∉ p.toList := by
  simp only [split, List.mem_map] at h
  obtain ⟨q, hq, rfl⟩ := h
  simpa using not_mem_of_mem_splitChars hq

end Reshape.Text
