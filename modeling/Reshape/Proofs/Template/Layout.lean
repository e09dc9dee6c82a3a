/-
# Where a template is cut

Which placeholders of a template are replaced depends on the names of the parameters alone.  A
template and a set of names have one layout (`layout`): texts, with placeholders of known names
between them.  Writing the placeholders back gives the template, and writing the parameters gives
what substitution makes of it, whatever values the parameters have.

The texts between the placeholders are left alone: scanned by themselves, they hold no placeholder
of a known name.  Nor is a placeholder passed over: one of a known name that stands behind a text
without an open mark is a cut.  What was put in is not looked at again.

Main statement: `substitute_single_pass`.
-/
import Mathlib.Data.Finset.Basic
import Reshape.Proofs.Template.Placeholder

namespace Reshape.Template

variable {params : Parameters} {known : Finset String} {f g : String → String}

/-! ## 1. Layouts -/

/-- The placeholder of a name. -/
def placeholder (name : String) : String := "[%" ++ name ++ "%]"

/-- A template that is cut at some of its placeholders. -/
inductive Layout where
  | text (s : String)
  | slot (before name : String) (rest : Layout)

namespace Layout

/-- The names of the placeholders, in order. -/
def names : Layout → List String
  | text _ => []
  | slot _ name rest => name :: rest.names

/-- The texts around the placeholders, in order. -/
def texts : Layout → List String
  | text s => [s]
  | slot before _ rest => before :: rest.texts

/-- The texts, with what `f` gives for the name of each placeholder between them. -/
def write (f : String → String) : Layout → String
  | text s => s
  | slot before name rest => before ++ f name ++ rest.write f

/-- The layout with a text in front of it. -/
def prepend (s : String) : Layout → Layout
  | text t => text (s ++ t)
  | slot before name rest => slot (s ++ before) name rest

@[simp] theorem names_prepend (s : String) (l : Layout) : (l.prepend s).names = l.names := by
  cases l <;> rfl

@[simp] theorem write_prepend (f : String → String) (s : String) (l : Layout) :
    (l.prepend s).write f = s ++ l.write f := by
  cases l <;> simp [prepend, write, String.append_assoc]

/-- Two layouts with the placeholder of a name between them. -/
def join : Layout → String → Layout → Layout
  | text s, name, back => slot s name back
  | slot before name' rest, name, back => slot before name' (rest.join name back)

theorem join_prepend (s name : String) (front back : Layout) :
    (front.prepend s).join name back = (front.join name back).prepend s := by
  cases front <;> rfl

theorem exists_texts_prepend (s : String) (l : Layout) :
    ∃ t ts, l.texts = t :: ts ∧ (l.prepend s).texts = (s ++ t) :: ts := by
  cases l with
  | text t => exact ⟨t, [], rfl, rfl⟩
  | slot before name rest => exact ⟨before, rest.texts, rfl, rfl⟩

/-- What is written depends on what stands for the names. -/
theorem write_congr {l : Layout} (h : ∀ name ∈ l.names, f name = g name) :
    l.write f = l.write g := by
  induction l with
  | text s => rfl
  | slot before name rest ih =>
    have hrest := ih fun n hn => h n (List.mem_cons_of_mem name hn)
    rw [write, write, hrest, h name List.mem_cons_self]

/-- A name between the texts is one whose placeholder stands in the template. -/
theorem infix_write_placeholder {l : Layout} {name : String} (h : name ∈ l.names) :
    (placeholder name).toList <:+: (l.write placeholder).toList := by
  induction l with
  | text s => cases h
  | slot before name' rest ih =>
    rcases List.mem_cons.mp h with rfl | h
    · exact ⟨before.toList, (rest.write placeholder).toList, by simp [write]⟩
    · obtain ⟨front, back, hrest⟩ := ih h
      refine ⟨before.toList ++ (placeholder name').toList ++ front, back, ?_⟩
      rw [write, String.toList_append, String.toList_append, ← hrest]
      simp

/-- The layout that pieces make up: a slot of a known name is a cut, all else is text. -/
def ofPieces (known : Finset String) : List Piece → Layout
  | [] => text ""
  | .text cs :: ps => (ofPieces known ps).prepend (String.ofList cs)
  | .slot name :: ps =>
    if String.ofList name ∈ known then slot "" (String.ofList name) (ofPieces known ps)
    else (ofPieces known ps).prepend (placeholder (String.ofList name))

/-- A slot of a known name is a cut, wherever it stands among the pieces. -/
theorem ofPieces_append_slot {name : List Char} (hn : String.ofList name ∈ known)
    (ps qs : List Piece) :
    ofPieces known (ps ++ .slot name :: qs) =
      (ofPieces known ps).join (String.ofList name) (ofPieces known qs) := by
  induction ps with
  | nil => simp [ofPieces, join, hn]
  | cons p ps ih =>
    rw [List.cons_append]
    cases p with
    | text cs => rw [ofPieces, ofPieces, join_prepend, ih]
    | slot name' =>
      by_cases hn' : String.ofList name' ∈ known
      · rw [ofPieces, ofPieces, if_pos hn', if_pos hn', ih]
        rfl
      · rw [ofPieces, ofPieces, if_neg hn', if_neg hn', join_prepend, ih]

theorem names_ofPieces (ps : List Piece) : ∀ name ∈ (ofPieces known ps).names, name ∈ known := by
  induction ps with
  | nil => simp [ofPieces, names]
  | cons p ps ih =>
    cases p with
    | text cs => simpa [ofPieces] using ih
    | slot name =>
      by_cases hn : String.ofList name ∈ known
      · simpa [ofPieces, hn, names] using ih
      · simpa [ofPieces, hn] using ih

/-- Pieces are written like their layout, if the slots of known names are written by `f` and the
others stay. -/
theorem write_ofPieces (render : Piece → List Char) (htext : ∀ cs, render (.text cs) = cs)
    (hslot : ∀ name, render (.slot name) =
      if String.ofList name ∈ known then (f (String.ofList name)).toList
      else (Piece.slot name).source) (ps : List Piece) :
    (ofPieces known ps).write f = String.ofList (ps.flatMap render) := by
  induction ps with
  | nil => rfl
  | cons p ps ih =>
    rw [List.flatMap_cons, String.ofList_append, ← ih]
    cases p with
    | text cs => rw [ofPieces, write_prepend, htext]
    | slot name =>
      by_cases hn : String.ofList name ∈ known
      · simp [ofPieces, hslot, hn, write]
      · simp [ofPieces, hslot, hn, placeholder, Piece.source, ← String.toList_inj]

end Layout

/-! ## 2. The layout of a template -/

/-- The layout of a template when these names are known. -/
def layout (known : Finset String) (t : String) : Layout := .ofPieces known (pieces t.toList)

theorem write_layout_placeholder (known : Finset String) (t : String) :
    (layout known t).write placeholder = t := by
  rw [layout, Layout.write_ofPieces Piece.source (fun _ => rfl), source_pieces,
    String.ofList_toList]
  intro name
  split <;> simp [Piece.source, placeholder]

/-- **A placeholder of a known name behind a closed text is a cut**, and what stands on both
sides of it is cut as if it stood alone. -/
theorem layout_placeholder {u name : String} (hu : Closed u) (hk : name ∈ known)
    (hn : ¬['%', ']'] <:+: name.toList) (w : String) :
    layout known (u ++ placeholder name ++ w) =
      (layout known u).join name (layout known w) := by
  have hpieces : pieces (u ++ placeholder name ++ w).toList =
      pieces u.toList ++ .slot name.toList :: pieces w.toList := by
    rw [← pieces_slot hu hn, placeholder]
    simp only [String.append_assoc]
  have hk' : String.ofList name.toList ∈ known := by rwa [String.ofList_toList]
  rw [layout, hpieces, Layout.ofPieces_append_slot hk', String.ofList_toList]
  rfl

/-- Parameters with these names and values. -/
structure Assigns (params : Parameters) (known : Finset String) (value : String → String) :
    Prop where
  names : (Entries.keys params).toFinset = known
  values : ∀ name ∈ known, params.get? name = some (value name)

theorem substitute_eq_write {value : String → String} (h : Assigns params known value)
    (t : String) :
    substitute t params = (layout known t).write fun name => Text.lowercase (value name) := by
  rw [substitute, layout, Layout.write_ofPieces (Piece.render params) (fun _ => rfl)]
  intro name
  split
  · next hn => rw [Piece.render, h.values _ hn]
  · next hn =>
    have hnone : params.get? (String.ofList name) = none := by
      rw [Entries.get?_eq_none_iff, ← List.mem_toFinset, h.names]
      exact hn
    rw [Piece.render, hnone]

/-! ## 3. The texts between placeholders -/

/-- Scanned by itself, a text holds no placeholder of a known name. -/
def Bare (known : Finset String) (s : String) : Prop :=
  ∀ name, .slot name ∈ pieces s.toList → String.ofList name ∉ known

theorem bare_of_pieces {s : String} (h : pieces s.toList = [.text s.toList]) : Bare known s := by
  intro name hname
  rw [h] at hname
  simp at hname

/-- A placeholder of an unknown name in front of a text that is bare. -/
theorem bare_append {before name : List Char} {s : String} (hb : ¬['[', '%'] <:+: before)
    (hn : ¬['%', ']'] <:+: name) (hk : String.ofList name ∉ known) (hs : Bare known s) :
    Bare known (String.ofList before ++ (placeholder (String.ofList name) ++ s)) := by
  have htext : (String.ofList before ++ (placeholder (String.ofList name) ++ s)).toList =
      before ++ '[' :: '%' :: (name ++ '%' :: ']' :: s.toList) := by
    simp [placeholder]
  have hopen := cutAt_append (by decide) hb (name ++ '%' :: ']' :: s.toList)
  have hclose := cutAt_append (by decide) hn s.toList
  intro name' hname'
  rw [htext, pieces_of_cut hopen hclose] at hname'
  simp only [List.mem_cons, reduceCtorEq, false_or, Piece.slot.injEq] at hname'
  rcases hname' with rfl | hname'
  · exact hk
  · exact hs name' hname'

/-- The induction follows the scan: what stands before a slot is unmarked, and what stands behind
it is scanned as if it stood alone. -/
theorem bare_of_mem_texts (known : Finset String) (cs : List Char) :
    ∀ s ∈ (Layout.ofPieces known (pieces cs)).texts, Bare known s := by
  have hlone : ∀ {cs : List Char}, pieces cs = [.text cs] →
      ∀ s ∈ (Layout.ofPieces known [.text cs]).texts, Bare known s := by
    intro cs hcs s hs
    have hs : s = String.ofList cs := by
      simpa [Layout.ofPieces, Layout.prepend, Layout.texts] using hs
    subst hs
    exact bare_of_pieces (by simpa using hcs)
  fun_induction pieces cs with
  | case1 cs h =>
    refine hlone (pieces_of_uncut fun before inside hcut => ?_)
    rw [h] at hcut
    cases hcut
  | case2 cs before inside h h' =>
    refine hlone (pieces_of_uncut fun before' inside' hcut => ?_)
    rw [h] at hcut
    cases hcut
    exact h'
  | case3 cs before inside h name after h' ih =>
    have hunmarked := not_infix_of_cutAt h
    have hunclosed := not_infix_of_cutAt h'
    intro s hs
    by_cases hn : String.ofList name ∈ known
    · rw [Layout.ofPieces, Layout.ofPieces, if_pos hn, Layout.prepend, Layout.texts] at hs
      rcases List.mem_cons.mp hs with rfl | hs
      · exact bare_of_pieces (by simpa using pieces_of_unmarked hunmarked)
      · exact ih s hs
    · rw [Layout.ofPieces, Layout.ofPieces, if_neg hn] at hs
      obtain ⟨t, ts, ht, htexts⟩ := Layout.exists_texts_prepend
        (placeholder (String.ofList name)) (Layout.ofPieces known (pieces after))
      obtain ⟨u, us, hu, htexts'⟩ := Layout.exists_texts_prepend (String.ofList before)
        ((Layout.ofPieces known (pieces after)).prepend (placeholder (String.ofList name)))
      rw [htexts] at hu
      cases hu
      rw [ht] at ih
      rw [htexts'] at hs
      rcases List.mem_cons.mp hs with rfl | hs
      · exact bare_append hunmarked hunclosed hn (ih t List.mem_cons_self)
      · exact ih s (List.mem_cons_of_mem t hs)

/-! ## 4. Substitution in one pass -/

/-- **Substitution cuts a template at places that depend on the names of the parameters alone.**
Between the cuts stand placeholders of known names; written back they make up the template, and
written as the parameters in lower case they make up the result, for all parameters of these
names.  No placeholder is passed over: one of a known name is a cut wherever it stands behind a
text that leaves no mark open, and the texts between the cuts hold none that a scan would
replace.  A template in which no placeholder of a known name occurs stays as it is. -/
theorem substitute_single_pass (t : String) (known : Finset String) :
    ∃ l : Layout, (∀ name ∈ l.names, name ∈ known) ∧ l.write placeholder = t ∧
      (∀ (params : Parameters) (value : String → String), Assigns params known value →
        substitute t params = l.write fun name => Text.lowercase (value name)) ∧
      (∀ s ∈ l.texts, Bare known s) ∧
      (∀ u w, ∀ name ∈ known, t = u ++ placeholder name ++ w → Closed u →
        ¬['%', ']'] <:+: name.toList → ∃ front back : Layout,
          front.write placeholder = u ∧ back.write placeholder = w ∧ l = front.join name back) ∧
      ((∀ name ∈ known, ¬(placeholder name).toList <:+: t.toList) →
        l.names = [] ∧ ∀ (params : Parameters) (value : String → String),
          Assigns params known value → substitute t params = t) := by
  have hnames : ∀ name ∈ (layout known t).names, name ∈ known := Layout.names_ofPieces _
  have hback := write_layout_placeholder known t
  refine ⟨layout known t, hnames, hback, fun params value h => substitute_eq_write h t,
    bare_of_mem_texts known t.toList, ?_, fun habsent => ?_⟩
  · rintro u w name hk rfl hu hn
    exact ⟨layout known u, layout known w, write_layout_placeholder known u,
      write_layout_placeholder known w, layout_placeholder hu hk hn w⟩
  have hnone : ∀ name, name ∉ (layout known t).names := by
    intro name hname
    have hinfix := Layout.infix_write_placeholder hname
    rw [hback] at hinfix
    exact habsent name (hnames name hname) hinfix
  refine ⟨List.eq_nil_iff_forall_not_mem.mpr hnone, fun params value h => ?_⟩
  rw [substitute_eq_write h t,
    Layout.write_congr (g := placeholder) fun name hname => absurd hname (hnone name), hback]

/-- The values of two tags, one of which looks like the placeholder of the other. -/
def tagValue (name : String) : String := if name = "a" then "[%B%]" else "Boom"

theorem tags_single_pass :
    Assigns [("b", "Boom"), ("a", "[%B%]")] {"a", "b"} tagValue ∧
    Closed "[%a%] [%z%]/" ∧ ¬['%', ']'] <:+: "b".toList ∧
    (∃ front back : Layout,
      front.write placeholder = "[%a%] [%z%]/" ∧ back.write placeholder = " [%a" ∧
      (front.join "b" back).write placeholder = "[%a%] [%z%]/[%b%] [%a" ∧
      (front.join "b" back).write (fun name => Text.lowercase (tagValue name)) =
        "[%b%] [%z%]/boom [%a") ∧
    (∀ name ∈ ({"a", "b"} : Finset String),
      ¬(placeholder name).toList <:+: "a%] [%z%]/[%b".toList) ∧
    substitute "a%] [%z%]/[%b" [("b", "Boom"), ("a", "[%B%]")] = "a%] [%z%]/[%b" := by
  have hassigns : Assigns [("b", "Boom"), ("a", "[%B%]")] {"a", "b"} tagValue :=
    ⟨by decide +kernel, by decide +kernel⟩
  have habsent : ∀ name ∈ ({"a", "b"} : Finset String),
      ¬(placeholder name).toList <:+: "a%] [%z%]/[%b".toList := by decide +kernel
  have hname : ¬['%', ']'] <:+: "b".toList := by decide +kernel
  have hclosed : Closed "[%a%] [%z%]/" := closed_of_pieces (by decide +kernel)
  obtain ⟨l, -, hback, hwrite, -, hcut, -⟩ :=
    substitute_single_pass "[%a%] [%z%]/[%b%] [%a" {"a", "b"}
  obtain ⟨_, -, -, -, -, -, hsame⟩ := substitute_single_pass "a%] [%z%]/[%b" {"a", "b"}
  obtain ⟨front, back, hfront, hrest, rfl⟩ := hcut "[%a%] [%z%]/" " [%a" "b" (by decide +kernel)
    (by decide +kernel) hclosed hname
  refine ⟨hassigns, hclosed, hname, ⟨front, back, hfront, hrest, hback, ?_⟩, habsent,
    (hsame habsent).2 _ _ hassigns⟩
  rw [← hwrite _ _ hassigns]
  decide +kernel

end Reshape.Template
