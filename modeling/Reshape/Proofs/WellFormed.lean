/-
# Values that are read are well-formed

Both readers write the entries of an object one after the other, so a repeated key has one entry.
No value that a text writes, in either format, holds two entries of one key, at any depth
(`Source.wellFormed_of_read`); the same is true of every document that loads.

A reader answers a value and what it hands on to the next: the characters that are left, or the
number of aliases that may still be expanded.  `Reads P read` says what all its values are like,
and is shown of a reader from what the readers of the parts read.
-/
import Reshape.Proofs.Sequence
import Reshape.Proofs.Written
import Reshape.Source

namespace Reshape

/-! ## 1. What a reader reads -/

section

variable {σ ε α β γ : Type} {P : α → Prop} {Q : β → Prop}

/-- Every value that is read meets `P`. -/
def Reads (P : α → Prop) (read : σ → Except ε (α × σ)) : Prop :=
  ∀ ⦃s x s'⦄, read s = .ok (x, s') → P x

theorem reads_true (read : StateT σ (Except ε) α) : Reads (fun _ => True) read :=
  fun _ _ _ _ => trivial

theorem reads_pure {x : α} (h : P x) : Reads P (pure x : StateT σ (Except ε) α) := by
  intro s y s' hy
  cases hy
  exact h

theorem reads_throw (e : ε) : Reads P (throw e : StateT σ (Except ε) α) := by
  intro s y s' hy
  cases hy

theorem reads_bind {read : StateT σ (Except ε) α} {next : α → StateT σ (Except ε) β}
    (h : Reads P read) (hnext : ∀ x, P x → Reads Q (next x)) : Reads Q (read >>= next) := by
  intro s y s' hy
  obtain ⟨⟨x, s''⟩, hx, hy⟩ := Result.bind_eq_ok.mp hy
  exact hnext x (h hx) hy

theorem reads_mapM {read : γ → StateT σ (Except ε) α} {xs : List γ}
    (h : ∀ x ∈ xs, Reads P (read x)) : Reads (fun ys => ∀ y ∈ ys, P y) (xs.mapM read) := by
  induction xs with
  | nil => exact reads_pure (by simp)
  | cons x xs ih =>
    obtain ⟨hx, hxs⟩ := List.forall_mem_cons.mp h
    rw [List.mapM_cons]
    exact reads_bind hx fun y hy => reads_bind (ih hxs) fun ys hys =>
      reads_pure (List.forall_mem_cons.mpr ⟨hy, hys⟩)

end

/-! ## 2. JSON -/

namespace Json

variable {s rest : List Char} {v w : Json}

theorem wellFormed_arr_iff {vs : List Json} : (arr vs).WellFormed ↔ ∀ v ∈ vs, v.WellFormed := by
  refine ⟨fun h => ?_, .arr⟩
  cases h with
  | arr h => exact h

theorem wellFormed_obj_iff {es : Entries Json} :
    (obj es).WellFormed ↔ Entries.Distinct es ∧ ∀ e ∈ es, e.2.WellFormed := by
  refine ⟨fun h => ?_, fun h => .obj h.1 h.2⟩
  cases h with
  | obj hd h => exact ⟨hd, h⟩

theorem wellFormed_ofList {es : Entries Json} (h : ∀ e ∈ es, e.2.WellFormed) :
    (obj (Entries.ofList es)).WellFormed :=
  .obj (Entries.distinct_ofList es) fun e he => h e (Entries.mem_of_mem_ofList he)

theorem eq_of_word {cs : List Char} (h : word v cs s = .ok (w, rest)) : w = v := by
  induction cs generalizing s with
  | nil =>
    cases h
    rfl
  | cons c cs ih =>
    cases s with
    | nil => cases h
    | cons d s =>
      rw [word] at h
      split at h
      · exact ih h
      · cases h

theorem reads_word (hv : v.WellFormed) (cs : List Char) : Reads WellFormed (word v cs) := by
  intro s w rest h
  rw [eq_of_word h]
  exact hv

theorem reads_floatOf (negative : Bool) (significand : Nat) (scale : Int) :
    Reads WellFormed (floatOf negative significand scale) := by
  intro s v rest h
  unfold floatOf at h
  split at h
  · cases h
    exact .float _
  · cases h

theorem reads_exponent (negative : Bool) (significand : Nat) (scale : Int) (down : Bool) :
    Reads WellFormed (exponent negative significand scale down) := by
  intro s v rest h
  unfold exponent at h
  split at h
  · cases h
  · split at h
    · cases h
    · split at h
      · exact reads_floatOf _ _ _ h
      · obtain ⟨-, h⟩ | ⟨-, h⟩ := ite_eq_iff.mp h
        · cases h
        · cases h
          exact .float _

theorem reads_exponentPart (negative : Bool) (significand : Nat) (scale : Int) :
    Reads WellFormed (exponentPart negative significand scale) := by
  intro s v rest h
  unfold exponentPart at h
  split at h
  · exact reads_exponent _ _ _ _ h
  · exact reads_exponent _ _ _ _ h
  · exact reads_exponent _ _ _ _ h

theorem reads_afterDigits {plain : Reader Json} (hplain : Reads WellFormed plain)
    (negative : Bool) (significand : Nat) (scale : Int) :
    Reads WellFormed (afterDigits plain negative significand scale) := by
  intro s v rest h
  unfold afterDigits at h
  split at h
  · exact reads_exponentPart _ _ _ h
  · exact reads_exponentPart _ _ _ h
  · exact hplain h

theorem reads_fractionPart (negative : Bool) (significand : Nat) (scale : Int) :
    Reads WellFormed (fractionPart negative significand scale) := by
  intro s v rest h
  unfold fractionPart at h
  split at h
  · cases h
  · split at h
    · cases h
    · exact reads_afterDigits (reads_floatOf _ _ _) _ _ _ h

theorem reads_wholeNumber (negative : Bool) (significand : Nat) (scale : Int) :
    Reads WellFormed (wholeNumber negative significand scale) := by
  intro s v rest h
  unfold wholeNumber at h
  split at h
  · cases h
    exact .int _
  · split at h
    · cases h
      exact .int _
    · exact reads_floatOf _ _ _ h

theorem reads_afterWhole (negative : Bool) (significand : Nat) (scale : Int) :
    Reads WellFormed (afterWhole negative significand scale) := by
  intro s v rest h
  unfold afterWhole at h
  split at h
  · exact reads_fractionPart _ _ _ h
  · exact reads_afterDigits (reads_wholeNumber _ _ _) _ _ _ h

theorem reads_number (negative : Bool) : Reads WellFormed (number negative) := by
  intro s v rest h
  unfold number at h
  split at h
  · cases h
  · split at h
    · cases h
    · split at h
      · cases h
      · exact reads_afterWhole _ _ _ h

/-- By induction on the rounds that are left; the parts of the rounds before meet `P`. -/
theorem reads_parts {α : Type} {P : α → Prop} {part : Reader α} (b : Bracket)
    (hpart : Reads P part) {fuel : Nat} {done : List α} (hdone : ∀ x ∈ done, P x) :
    Reads (fun xs => ∀ x ∈ xs, P x) (parts b part fuel done) := by
  induction fuel generalizing done with
  | zero =>
    intro s xs rest h
    cases h
  | succ fuel ih =>
    intro s xs rest h
    rw [parts] at h
    split at h
    · cases h
    · split at h
      · cases h
        exact fun x hx => hdone x (List.mem_reverse.mp hx)
      · obtain ⟨s', -, h⟩ := Result.bind_eq_ok.mp h
        obtain ⟨⟨x, s''⟩, hx, h⟩ := Result.bind_eq_ok.mp h
        exact ih (List.forall_mem_cons.mpr ⟨hpart hx, hdone⟩) h

theorem reads_entry {limit : Nat} {item : Reader Json} (hitem : Reads WellFormed item) :
    Reads (fun e => e.2.WellFormed) (entry limit item) := by
  intro s e rest h
  unfold entry at h
  split at h
  · obtain ⟨⟨key, s'⟩, -, h⟩ := Result.bind_eq_ok.mp h
    simp only at h
    split at h
    · obtain ⟨⟨w, s''⟩, hw, h⟩ := Result.bind_eq_ok.mp h
      cases h
      exact hitem hw
    · cases h
    · cases h
  · cases h

theorem reads_items {limit : Nat} {item : Reader Json} (hitem : Reads WellFormed item) :
    Reads WellFormed (items limit item) := by
  intro s v rest h
  obtain ⟨⟨vs, s'⟩, hvs, h⟩ := Result.map_eq_ok.mp h
  cases h
  exact .arr (reads_parts .list hitem (by simp) hvs)

theorem reads_entries {limit : Nat} {item : Reader Json} (hitem : Reads WellFormed item) :
    Reads WellFormed (entries limit item) := by
  intro s v rest h
  obtain ⟨⟨es, s'⟩, hes, h⟩ := Result.map_eq_ok.mp h
  cases h
  exact wellFormed_ofList (reads_parts .object (reads_entry hitem) (by simp) hes)

theorem reads_valueWith {limit : Nat} {inner : Option (Reader Json)}
    (hinner : ∀ item ∈ inner, Reads WellFormed item) :
    Reads WellFormed (valueWith limit inner) := by
  intro s v rest h
  unfold valueWith at h
  split at h
  · cases h
  · exact reads_word .null _ h
  · exact reads_word (.bool true) _ h
  · exact reads_word (.bool false) _ h
  · exact reads_number true h
  · obtain ⟨⟨t, s'⟩, -, h⟩ := Result.map_eq_ok.mp h
    cases h
    exact .str t
  · split at h
    · next item => exact reads_items (hinner item rfl) h
    · cases h
  · split at h
    · next item => exact reads_entries (hinner item rfl) h
    · cases h
  · split at h
    · exact reads_number false h
    · cases h

/-- By induction on how deep values may still nest. -/
theorem reads_value (limit depth : Nat) : Reads WellFormed (value limit depth) := by
  induction depth with
  | zero => exact reads_valueWith (by simp)
  | succ depth ih => exact reads_valueWith (by simpa using ih)

theorem wellFormed_of_read {s : String} (h : read s = .ok v) : v.WellFormed := by
  simp only [read] at h
  split at h
  · next hdoc =>
    cases h
    obtain ⟨⟨w, s'⟩, hw, h⟩ := Result.bind_eq_ok.mp hdoc
    simp only at h
    split at h
    · cases h
      exact reads_value _ _ hw
    · cases h
  · cases h

end Json

/-! ## 3. YAML -/

namespace Yaml

open Json (WellFormed)

variable {table : List (Nat × Bound)} {s : String} {v : Json}

theorem wellFormed_value (w : FloatWord) : w.value.WellFormed := by
  cases w with
  | finite x => exact .float x
  | notFinite => exact .null

theorem wellFormed_of_wholeValue? (h : wholeValue? s = some (.ok v)) : v.WellFormed := by
  obtain ⟨n, -, h⟩ := Option.map_eq_some_iff.mp h
  split at h
  · cases h
    exact .int n
  · cases h

theorem wellFormed_of_plainValue (h : plainValue s = .ok v) : v.WellFormed := by
  unfold plainValue at h
  split at h
  · cases h
    exact .null
  · split at h
    · cases h
      exact .bool _
    · next hw => exact wellFormed_of_wholeValue? (hw.trans (congrArg some h))
    · split at h
      · cases h
        exact .str s
      · cases h
        cases float? s with
        | none => exact .str s
        | some w => exact wellFormed_value w

theorem wellFormed_of_demand {x : Option Json} {complaint : Complaint}
    (hx : ∀ w, x = some w → w.WellFormed)
    (h : some (x.elim (Except.error complaint) Except.ok) = some (.ok v)) : v.WellFormed := by
  cases x with
  | none => cases h
  | some w =>
    cases h
    exact hx v rfl

/-- A tag demands a Boolean, a whole number, a floating-point number or null. -/
theorem wellFormed_of_taggedValue? {tag : String} (h : taggedValue? tag s = some (.ok v)) :
    v.WellFormed := by
  unfold taggedValue? at h
  split at h
  · refine wellFormed_of_demand ?_ h
    intro w hw
    obtain ⟨b, -, rfl⟩ := Option.map_eq_some_iff.mp hw
    exact .bool b
  split at h
  · cases hw : wholeValue? s with
    | none =>
      rw [hw] at h
      cases h
    | some r =>
      rw [hw] at h
      exact wellFormed_of_wholeValue? (hw.trans h)
  split at h
  · refine wellFormed_of_demand ?_ h
    intro w hw
    obtain ⟨x, -, rfl⟩ := Option.map_eq_some_iff.mp hw
    exact wellFormed_value x
  split at h
  · refine wellFormed_of_demand ?_ h
    intro w hw
    split at hw
    · cases hw
      exact .null
    · cases hw
  · cases h

theorem wellFormed_of_scalarValue {tag : Option String} {plain : Bool}
    (h : scalarValue tag plain s = .ok v) : v.WellFormed := by
  unfold scalarValue at h
  split at h
  · split at h
    · cases h
    · next tag _ =>
      cases ht : taggedValue? tag s with
      | none =>
        rw [ht] at h
        cases h
        exact .str s
      | some r =>
        rw [ht] at h
        exact wellFormed_of_taggedValue? (ht.trans (congrArg some h))
  · split at h
    · exact wellFormed_of_plainValue h
    · cases h
      exact .str s

theorem reads_valueWith {inner : Option (String → Bound → Expansion Json)}
    (hinner : ∀ read ∈ inner, ∀ path node, Reads WellFormed (read path node)) (path : String)
    (node : Bound) : Reads WellFormed (valueWith table inner path node) := by
  unfold valueWith
  refine reads_bind (reads_true _) fun b _ => ?_
  cases b with
  | «alias» n => exact reads_throw _
  | scalar ps n plain text =>
    cases h : scalarValue ps.tag plain text with
    | ok v =>
      simp only [h]
      exact reads_pure (wellFormed_of_scalarValue h)
    | error complaint =>
      simp only [h]
      exact reads_throw _
  | sequence ps n items =>
    simp only
    split
    · exact reads_throw _
    · cases inner with
      | none => exact reads_throw _
      | some read =>
        exact reads_bind (reads_mapM fun e _ => hinner read rfl _ _)
          fun vs hvs => reads_pure (.arr hvs)
  | mapping ps n entries =>
    simp only
    split
    · exact reads_throw _
    · cases inner with
      | none => exact reads_throw _
      | some read =>
        refine reads_bind (P := fun es => ∀ e ∈ es, e.2.WellFormed) (reads_mapM fun e _ => ?_)
          fun es hes => reads_pure (Json.wellFormed_ofList hes)
        exact reads_bind (reads_true _) fun k _ =>
          reads_bind (hinner read rfl _ _) fun v hv => reads_pure hv

theorem reads_value (depth : Nat) (path : String) (node : Bound) :
    Reads WellFormed (value table depth path node) := by
  induction depth generalizing path node with
  | zero => exact reads_valueWith (by simp) path node
  | succ depth ih => exact reads_valueWith (by simpa using ih) path node

theorem wellFormed_of_read (h : read s = .ok v) : v.WellFormed := by
  obtain ⟨root, -, h⟩ := Result.bind_eq_ok.mp h
  cases root with
  | none =>
    cases h
    exact .null
  | some root =>
    obtain ⟨⟨bound, numbers⟩, -, h⟩ := Result.bind_eq_ok.mp h
    obtain ⟨⟨w, left⟩, hw, h⟩ := Result.bind_eq_ok.mp h
    cases h
    exact reads_value _ _ _ hw

end Yaml

/-! ## 4. Documents -/

namespace Source

variable {v : Json}

/-- **A text writes a well-formed value**, in either format. -/
theorem wellFormed_of_read {format : Format} {text : String} (h : read format text = .ok v) :
    v.WellFormed := by
  cases format with
  | json => exact Json.wellFormed_of_read (Result.mapError_eq_ok.mp h)
  | yaml => exact Yaml.wellFormed_of_read (Result.mapError_eq_ok.mp h)

theorem wellFormed_of_load {fs : FileSystem} {source : String} (h : load fs source = .ok v) :
    v.WellFormed := by
  unfold load loadFile at h
  split at h
  · cases h
  · split at h
    · cases h
    · split at h
      · exact wellFormed_of_read h
      · cases h

end Source

end Reshape
