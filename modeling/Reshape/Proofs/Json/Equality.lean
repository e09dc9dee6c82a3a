/-
# What equality of values sees

Two values are the same (`Json.Same`) if they have one canonical form.  For objects that means:
reading any key gives the same, or nothing, in both (`Same.parts`); and objects without repeated
keys that read the same are the same (`same_obj`), whatever the order of their entries.  So values
without repeated keys are the same exactly if they are so part by part (`same_iff_parts`).

What is asked of values while they are mapped gets the same answer for values that are the
same: kind, candidates, blankness, membership, and which items of an array are repetitions.  A
relation of values with these properties, which is kept by arrays and by objects that are
written in step, is a `Congruence`; equality is one and sameness is the other.
-/
import Mathlib.Data.List.Forall2
import Reshape.Json.Equality
import Reshape.Json.Shape
import Reshape.Proofs.Written

namespace Reshape

/-! ## 1. Entries by increasing key -/

namespace Entries

variable {α : Type u} {es fs : Entries α} {k : String} {v : α}

theorem pairwise_keys_insertSorted (h : (keys es).Pairwise (· ≤ ·)) :
    (keys (insertSorted k v es)).Pairwise (· ≤ ·) := by
  induction es with
  | nil => simp [insertSorted]
  | cons e es ih =>
    obtain ⟨k', v'⟩ := e
    obtain ⟨hk', hes⟩ := List.pairwise_cons.mp h
    by_cases hlt : k' < k
    · rw [insertSorted, if_pos hlt, keys_cons]
      refine List.pairwise_cons.mpr ⟨fun l hl => ?_, ih hes⟩
      have hmem : l ∈ keys ((k, v) :: es) := ((insertSorted_perm k v es).map Prod.fst).mem_iff.mp hl
      rcases List.mem_cons.mp hmem with rfl | hl
      · exact Std.le_of_lt hlt
      · exact hk' l hl
    · rw [insertSorted, if_neg hlt, keys_cons]
      refine List.pairwise_cons.mpr ⟨fun l hl => ?_, h⟩
      have hkk' : k ≤ k' := Std.not_lt.mp hlt
      rcases List.mem_cons.mp hl with rfl | hl
      · exact hkk'
      · exact Std.le_trans hkk' (hk' l hl)

theorem pairwise_keys_sortByKey (es : Entries α) : (keys (sortByKey es)).Pairwise (· ≤ ·) := by
  induction es with
  | nil => exact .nil
  | cons e es ih => exact pairwise_keys_insertSorted ih

theorem keys_sortByKey_perm (es : Entries α) : (keys (sortByKey es)).Perm (keys es) :=
  (sortByKey_perm es).map Prod.fst

theorem distinct_sortByKey (h : Distinct es) : Distinct (sortByKey es) :=
  (keys_sortByKey_perm es).nodup_iff.mpr h

/-- Mappings that read alike are sorted alike. -/
theorem sortByKey_eq (he : Distinct es) (hf : Distinct fs)
    (h : ∀ key, get? key es = get? key fs) : sortByKey es = sortByKey fs := by
  have hmem : ∀ key, key ∈ keys es ↔ key ∈ keys fs := by
    intro key
    rw [← not_iff_not, ← get?_eq_none_iff, ← get?_eq_none_iff, h]
  have hperm : (keys (sortByKey es)).Perm (keys (sortByKey fs)) :=
    ((keys_sortByKey_perm es).trans ((List.perm_ext_iff_of_nodup he hf).mpr hmem)).trans
      (keys_sortByKey_perm fs).symm
  refine eq_of_get? (distinct_sortByKey he) ?_ fun key => ?_
  · exact hperm.eq_of_pairwise (fun _ _ _ _ => Std.le_antisymm) (pairwise_keys_sortByKey es)
      (pairwise_keys_sortByKey fs)
  · rw [get?_sortByKey, get?_sortByKey, h]

end Entries

/-! ## 2. Sameness -/

namespace Json

/-- Two values are equal: they have one canonical form. -/
def Same (v w : Json) : Prop := v.canonical = w.canonical

instance (v w : Json) : Decidable (v.Same w) := inferInstanceAs (Decidable (_ = _))

variable {v w : Json} {items items' : List Json} {es fs : Entries Json}

theorem equal_iff_same : v.equal w = true ↔ v.Same w := equal_iff

@[refl] theorem Same.refl (v : Json) : v.Same v := Eq.refl v.canonical

theorem Same.symm (h : v.Same w) : w.Same v := Eq.symm h

theorem equivalence_same : Equivalence Same := ⟨Same.refl, Same.symm, Eq.trans⟩

theorem Same.refl_items (items : List Json) : List.Forall₂ Same items items :=
  List.forall₂_same.mpr fun v _ => .refl v

/-- Two entries have one key, and values in a relation. -/
def EntryRel {α β : Type} (R : α → β → Prop) (a : String × α) (b : String × β) : Prop :=
  a.1 = b.1 ∧ R a.2 b.2

theorem map_canonical_eq_iff : items.map canonical = items'.map canonical ↔
    List.Forall₂ Same items items' := by
  rw [← List.forall₂_eq_eq_eq, List.forall₂_map_left_iff, List.forall₂_map_right_iff]
  rfl

theorem option_map_canonical_eq_iff {a b : Option Json} :
    a.map canonical = b.map canonical ↔ Option.Rel Same a b := by
  cases a <;> cases b <;> simp [Same]

/-- Sameness, part by part. -/
inductive SameParts : Json → Json → Prop
  | null : SameParts .null .null
  | bool (b : Bool) : SameParts (.bool b) (.bool b)
  | int (n : Int) : SameParts (.int n) (.int n)
  | float {x y : Binary64} (h : x.sameValue y = true) : SameParts (.float x) (.float y)
  | str (s : String) : SameParts (.str s) (.str s)
  | arr {items items' : List Json} (h : List.Forall₂ Same items items') :
      SameParts (.arr items) (.arr items')
  | obj {es fs : Entries Json}
      (hget : ∀ key, Option.Rel Same (Entries.get? key es) (Entries.get? key fs))
      (hempty : es.isEmpty = fs.isEmpty) : SameParts (.obj es) (.obj fs)

/-- Values that are the same are so part by part. -/
theorem Same.parts (h : v.Same w) : SameParts v w := by
  have hget : ∀ key, (get? key v).map canonical = (get? key w).map canonical := by
    intro key
    rw [← get?_canonical, ← get?_canonical, h]
  cases v <;> cases w <;> simp only [Same, canonical, reduceCtorEq] at h
  case null => exact .null
  case bool => cases h; exact .bool _
  case int => cases h; exact .int _
  case float => exact .float (Binary64.sameValue_iff.mpr (Json.float.inj h))
  case str => cases h; exact .str _
  case arr =>
    rw [arr.injEq, canonicalItems_eq_map, canonicalItems_eq_map] at h
    exact .arr (map_canonical_eq_iff.mp h)
  case obj es fs =>
    refine .obj (fun key => option_map_canonical_eq_iff.mp (hget key)) ?_
    have hlength := congrArg List.length (Json.obj.inj h)
    rw [(Entries.sortByKey_perm _).length_eq, (Entries.sortByKey_perm _).length_eq,
      canonicalEntries_eq_map, canonicalEntries_eq_map, List.length_map, List.length_map] at hlength
    cases es <;> cases fs <;> simp_all

theorem same_arr (h : List.Forall₂ Same items items') : Same (.arr items) (.arr items') := by
  rw [Same, canonical, canonical, canonicalItems_eq_map, canonicalItems_eq_map,
    map_canonical_eq_iff.mpr h]

/-- **Objects that read the same are the same**, if they have no key twice. -/
theorem same_obj (he : Entries.Distinct es) (hf : Entries.Distinct fs)
    (h : ∀ key, Option.Rel Same (Entries.get? key es) (Entries.get? key fs)) :
    Same (.obj es) (.obj fs) := by
  have hkeys : ∀ es : Entries Json, Entries.keys (canonicalEntries es) = Entries.keys es := by
    intro es
    rw [canonicalEntries_eq_map]
    simp [Entries.keys]
  have hget : ∀ (es : Entries Json) key,
      Entries.get? key (canonicalEntries es) = (Entries.get? key es).map canonical := by
    intro es key
    have hread := get?_canonical key (.obj es)
    rwa [canonical, get?, Entries.get?_sortByKey] at hread
  rw [Same, canonical, canonical, Entries.sortByKey_eq]
  · rw [Entries.Distinct, hkeys]
    exact he
  · rw [Entries.Distinct, hkeys]
    exact hf
  · intro key
    rw [hget, hget]
    exact option_map_canonical_eq_iff.mpr (h key)

/-- **Values are the same exactly if they are so part by part**, down to the parts of their
parts. -/
theorem same_iff_parts (hv : v.WellFormed) (hw : w.WellFormed) : v.Same w ↔ SameParts v w := by
  refine ⟨Same.parts, fun h => ?_⟩
  cases h with
  | float h => exact congrArg Json.float (Binary64.sameValue_iff.mp h)
  | arr h => exact same_arr h
  | obj hget =>
    cases hv with | obj hdistinct _ =>
    cases hw with | obj hdistinct' _ =>
    exact same_obj hdistinct hdistinct' hget
  | _ => rfl

/-- What is written in step reads in step. -/
theorem rel_get?_ofList {R : Json → Json → Prop} {news news' : Entries Json}
    (h : List.Forall₂ (EntryRel R) news news') (key : String) :
    Option.Rel R (Entries.get? key (Entries.ofList news))
      (Entries.get? key (Entries.ofList news')) := by
  rw [Entries.get?_ofList, Entries.get?_ofList]
  have hreverse := List.rel_reverse h
  generalize news.reverse = es at hreverse ⊢
  generalize news'.reverse = fs at hreverse ⊢
  induction hreverse with
  | nil => exact .none
  | @cons a b _ _ hab _ ih =>
    obtain ⟨k, v⟩ := a
    obtain ⟨l, w⟩ := b
    obtain ⟨rfl, hvw⟩ := hab
    rw [Entries.get?_cons, Entries.get?_cons]
    split
    · exact .some hvw
    · exact ih

/-- Objects that are written in step are the same. -/
theorem same_obj_ofList {news news' : Entries Json}
    (h : List.Forall₂ (EntryRel Same) news news') :
    Same (.obj (Entries.ofList news)) (.obj (Entries.ofList news')) :=
  same_obj (Entries.distinct_ofList _) (Entries.distinct_ofList _) (rel_get?_ofList h)

/-! ## 3. Questions about values -/

theorem Same.isNull (h : v.Same w) : v.isNull = w.isNull := by
  cases h.parts <;> rfl

theorem Same.isMany (h : v.Same w) : v.isMany = w.isMany := by
  cases h.parts <;> rfl

theorem Same.isOff (h : v.Same w) : v.isOff = w.isOff := by
  cases h.parts <;> rfl

theorem Same.isBlank (h : v.Same w) : v.isBlank = w.isBlank := by
  cases h.parts with
  | arr hs => cases hs <;> rfl
  | obj _ hempty => exact hempty
  | _ => rfl

theorem Same.typeName (h : v.Same w) : v.typeName = w.typeName := by
  cases h.parts <;> rfl

theorem Same.candidates (h : v.Same w) : List.Forall₂ Same v.candidates w.candidates := by
  cases h.parts with
  | arr hs => exact hs
  | _ => exact .cons h .nil

theorem Same.equal {v' w' : Json} (h : v.Same w) (h' : v'.Same w') : v.equal v' = w.equal w' := by
  rw [Json.equal, Json.equal, h, h']

theorem Same.memberOf (h : v.Same w) (hs : List.Forall₂ Same items items') :
    v.memberOf items = w.memberOf items' := by
  induction hs with
  | nil => rfl
  | cons hxy _ ih =>
    rw [Json.memberOf, List.any_cons, h.equal hxy]
    exact congrArg _ ih

/-! ## 4. Relations between equality and sameness -/

variable {R : Json → Json → Prop}

/-- Of values that are the same in step the same are repetitions. -/
theorem forall₂_dedup (hR : ∀ v w, R v w → v.Same w) (h : List.Forall₂ R items items') :
    List.Forall₂ R (dedup items) (dedup items') := by
  have honto : ∀ {kept kept' : List Json}, List.Forall₂ R kept kept' →
      List.Forall₂ R (dedupOnto kept items) (dedupOnto kept' items') := by
    induction h with
    | nil => exact id
    | cons hxy _ ih =>
      intro kept kept' hk
      rw [dedupOnto, dedupOnto, (hR _ _ hxy).memberOf (hk.imp hR)]
      split
      · exact ih hk
      · exact ih (List.rel_append hk (.cons hxy .nil))
  exact honto .nil

theorem forall₂_dropNulls (hR : ∀ v w, R v w → v.Same w) (h : List.Forall₂ R items items') :
    List.Forall₂ R (dropNulls items) (dropNulls items') := by
  refine List.rel_filter (fun v w hvw => ?_) h
  change (!v.isNull) = true ↔ (!w.isNull) = true
  rw [(hR v w hvw).isNull]

/-- A relation of values that are the same, kept by arrays and by objects written in step. -/
structure Congruence (R : Json → Json → Prop) : Prop where
  refl (v : Json) : R v v
  same {v w : Json} (h : R v w) : v.Same w
  candidates {v w : Json} (h : R v w) : List.Forall₂ R v.candidates w.candidates
  arr {items items' : List Json} (h : List.Forall₂ R items items') : R (.arr items) (.arr items')
  obj {news news' : Entries Json} (h : List.Forall₂ (EntryRel R) news news') :
    R (.obj (Entries.ofList news)) (.obj (Entries.ofList news'))

theorem congruence_same : Congruence Same :=
  ⟨Same.refl, id, Same.candidates, same_arr, same_obj_ofList⟩

theorem entryRel_eq : (EntryRel Eq : String × Json → String × Json → Prop) = Eq := by
  funext a b
  exact propext Prod.ext_iff.symm

theorem congruence_eq : Congruence Eq where
  refl _ := rfl
  same h := h ▸ Same.refl _
  candidates h := h ▸ List.forall₂_refl _
  arr h := congrArg _ (List.forall₂_eq_eq_eq ▸ h)
  obj h := by
    rw [entryRel_eq, List.forall₂_eq_eq_eq] at h
    rw [h]

end Json

end Reshape
