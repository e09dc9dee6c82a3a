/-
# Places as they are written

A place is written as a path: a slash in front of each key and index.  If its keys are plain, that
is, if none of them is empty, writes a number, holds a slash or is a `*`, it can be read back from
what is written (`text_injective`), and the path that is written leads to what stands at the place
(`outcome_text`).
-/
import Mathlib.Data.List.Induction
import Reshape.Location
import Reshape.Proofs.Path.Composition

namespace Reshape

/-! ## 1. Steps -/

/-- A key that cannot be mistaken for anything else in a path. -/
structure PlainKey (k : String) : Prop where
  noSlash : '/' ∉ k.toList
  noNumber : Path.index? k = none
  notEmpty : k ≠ ""
  notWildcard : k ≠ Path.wildcard

namespace Step

variable {s : Step} {i : Nat}

/-- A step as a segment of a path. -/
def word : Step → String
  | key k => k
  | index i => toString i

/-- The step that a segment writes. -/
def ofWord (w : String) : Step :=
  match Path.index? w with
  | some i => index i
  | none => key w

/-- An index, or a plain key. -/
def Plain : Step → Prop
  | key k => PlainKey k
  | index _ => True

theorem text_eq (s : Step) : s.text = "/" ++ s.word := by
  cases s <;> rfl

theorem isDigit_of_mem_toString {c : Char} (h : c ∈ (toString i).toList) : c.isDigit = true := by
  rw [Nat.toString_eq_ofList_toDigits, String.toList_ofList] at h
  exact Nat.isDigit_of_mem_toDigits (by decide) (by decide) h

/-- An index is read as the number that it is. -/
theorem index?_toString (i : Nat) : Path.index? (toString i) = some i := by
  have hlist : (toString i).toList = Nat.toDigits 10 i := by
    rw [Nat.toString_eq_ofList_toDigits, String.toList_ofList]
  refine Path.index?_eq_some_iff.mpr ⟨Nat.toDigits 10 i, Nat.toDigits_ne_nil, ?_, .inl hlist, ?_⟩
  · rw [← hlist]
    exact fun c hc => isDigit_of_mem_toString hc
  · rw [← Path.decimal_eq_positional, Text.decimal, ← Nat.ofDigitChars_eq_foldl,
      Nat.ofDigitChars_ten_toDigits]

theorem not_slash_of_plain (h : s.Plain) : '/' ∉ s.word.toList := by
  cases s with
  | key k => exact h.noSlash
  | index i => exact fun hc => absurd (isDigit_of_mem_toString hc) (by decide)

theorem word_ne_empty (h : s.Plain) : s.word ≠ "" := by
  cases s with
  | key k => exact h.notEmpty
  | index i =>
    intro he
    have hi : Path.index? "" = some i := he ▸ index?_toString i
    cases hi

theorem word_ne_wildcard (h : s.Plain) : s.word ≠ Path.wildcard := by
  cases s with
  | key k => exact h.notWildcard
  | index i =>
    intro he
    have hi : Path.index? Path.wildcard = some i := he ▸ index?_toString i
    cases hi

theorem ofWord_word (h : s.Plain) : ofWord s.word = s := by
  cases s with
  | key k => rw [word, ofWord, h.noNumber]
  | index i => rw [word, ofWord, index?_toString]

end Step

namespace Location

open Reshape.Path (ofString outcome follow child? present_some)

variable {l l' : Location} {v w : Json}

/-! ## 2. What stands at a place -/

theorem key_inj {k : String} : l.key k = l'.key k ↔ l = l' :=
  List.append_left_inj _

theorem index_inj {i j : Nat} : l.index i = l'.index j ↔ l = l' ∧ i = j := by
  simp [index]

@[simp] theorem follow?_nil (v : Json) : follow? [] v = some v := rfl

theorem follow?_cons (s : Step) (l : Location) (v : Json) :
    follow? (s :: l) v = (stepInto? s v).bind l.follow? := by
  rw [follow?, List.foldlM_cons]
  rfl

theorem follow?_append (l l' : Location) (v : Json) :
    follow? (l ++ l') v = (l.follow? v).bind l'.follow? := by
  rw [follow?, List.foldlM_append]
  rfl

/-- The key of an object. -/
theorem follow?_key_of_get? {es : Entries Json} {k : String} (h : l.follow? v = some (.obj es))
    (hk : Entries.get? k es = some w) : (l.key k).follow? v = some w := by
  rw [key, follow?_append, h, Option.bind_some, follow?_cons]
  exact Option.bind_eq_some_iff.mpr ⟨w, hk, rfl⟩

/-- The item of an array. -/
theorem follow?_index_of_getElem? {vs : List Json} {i : Nat} (h : l.follow? v = some (.arr vs))
    (hi : vs[i]? = some w) : (l.index i).follow? v = some w := by
  rw [index, follow?_append, h, Option.bind_some, follow?_cons]
  exact Option.bind_eq_some_iff.mpr ⟨w, hi, rfl⟩

/-! ## 3. Places that can be read back -/

/-- A place whose keys are plain. -/
def Plain (l : Location) : Prop := ∀ s ∈ l, s.Plain

theorem Plain.key (h : l.Plain) {k : String} (hk : PlainKey k) : (l.key k).Plain := by
  intro s hs
  rcases List.mem_append.mp hs with hs | hs
  · exact h s hs
  · rw [List.mem_singleton.mp hs]
    exact hk

theorem Plain.index (h : l.Plain) (i : Nat) : (l.index i).Plain := by
  intro s hs
  rcases List.mem_append.mp hs with hs | hs
  · exact h s hs
  · rw [List.mem_singleton.mp hs]
    trivial

/-- The segments that a place writes; the first of them is empty. -/
theorem segments_text (h : l.Plain) : (ofString l.text).segments = "" :: l.map Step.word := by
  induction l using List.reverseRecOn with
  | nil => rfl
  | append_singleton l s ih =>
    have hl : Plain l := fun r hr => h r (List.mem_append_left _ hr)
    have hs : s.Plain := h s (by simp)
    have htext : text (l ++ [s]) = text l ++ "/" ++ s.word := by
      rw [text, List.map_append, String.join_append, String.append_assoc, ← Step.text_eq]
      simp [text, String.join_cons, String.join_nil]
    have hword : (ofString s.word).segments = [s.word] := by
      rw [ofString, Text.split, Text.splitChars_of_not_mem (Step.not_slash_of_plain hs)]
      simp
    rw [htext, Path.ofString_slash, ih hl, hword, List.map_append]
    rfl

/-- **Places with plain keys are written differently.** -/
theorem text_injective (h : l.Plain) (h' : l'.Plain) (ht : l.text = l'.text) : l = l' := by
  have hread : ∀ {l : Location}, l.Plain → (l.map Step.word).map Step.ofWord = l := by
    intro l hl
    rw [List.map_map]
    exact (List.map_congr_left fun s hs => Step.ofWord_word (hl s hs)).trans (List.map_id l)
  have hwords : l.map Step.word = l'.map Step.word := by
    have hs : "" :: l.map Step.word = "" :: l'.map Step.word := by
      rw [← segments_text h, ← segments_text h', ht]
    exact (List.cons.inj hs).2
  rw [← hread h, hwords, hread h']

theorem child?_word {s : Step} (h : stepInto? s v = some w) (hs : s.Plain) :
    child? s.word v = some w := by
  cases s with
  | key k =>
    cases v with
    | obj es => exact h
    | _ => cases h
  | index i =>
    cases v with
    | arr items =>
      rw [Step.word, child?, Step.index?_toString]
      exact h
    | _ => cases h

theorem follow_words (hl : l.Plain) (h : l.follow? v = some w) (hw : w ≠ .null) :
    follow (l.map Step.word) (some v) = some w := by
  induction l generalizing v with
  | nil =>
    cases h
    exact present_some hw
  | cons s l ih =>
    rw [follow?_cons] at h
    obtain ⟨u, hu, hl'⟩ := Option.bind_eq_some_iff.mp h
    have hs : s.Plain := hl s List.mem_cons_self
    have hv : v ≠ .null := by
      rintro rfl
      cases s <;> cases hu
    rw [List.map_cons, follow, present_some hv]
    simp only [Step.word_ne_empty hs, if_false]
    rw [child?_word hu hs]
    exact ih (fun r hr => hl r (List.mem_cons_of_mem s hr)) hl'

/-- **The path that a place writes leads to what stands there.** -/
theorem outcome_text (hl : l.Plain) (h : l.follow? v = some w) (hw : w ≠ .null) :
    (ofString l.text).outcome v = .ok (some w) := by
  have hwords := follow_words hl h hw
  have hstar : Path.wildcard ∉ (ofString l.text).segments := by
    rw [segments_text hl, List.mem_cons, List.mem_map, not_or]
    refine ⟨by decide, ?_⟩
    rintro ⟨s, hs, he⟩
    exact Step.word_ne_wildcard (hl s hs) he
  have hfollow : (ofString l.text).outcome v = .ok (follow (ofString l.text).segments (some v)) :=
    Path.result_resolveFrom_of_not_mem hstar
  have hv : v ≠ .null := by
    rintro rfl
    rw [Path.follow_absent Path.present_null] at hwords
    cases hwords
  rw [hfollow, segments_text hl, follow, present_some hv]
  simp only [if_true]
  rw [hwords]

end Location

end Reshape
