/-
# What linting promises

Linting looks at names where a run looks them up.  Without a finding about the shape of a
document or about a definition there is an engine; without one about the conditions that nodes
refer to, or about their transforms, no run fails for want of a condition or of a transform.
What is left are a `*` that meets no array, and transforms that fail themselves.

Main statement: `lint_sound`.
-/
import Reshape.Proofs.Engine.Failure
import Reshape.Proofs.Lint.Places
import Reshape.Proofs.Transform.Errors
import Reshape.Proofs.Written

namespace Reshape

/-- What is found of a value that loads is what is found of the document. -/
theorem Json.lint_eq_findings {v : Json} {d : Document} (hd : Document.ofJson v = .ok d) :
    v.lint = d.findings := by
  rw [lint, hd]

/-- Linting finds something with this code. -/
def Json.Reports (v : Json) (code : String) : Prop := ∃ f ∈ v.lint, f.code = code

/-! ## 1. Conditions that are built -/

namespace ConditionSet

variable {classes : ConditionClasses} {defs : Entries ConditionDef} {cs : ConditionSet}

theorem build_eq_ok :
    build classes defs = .ok cs ↔
      ∃ ps, List.Forall₂ (fun d p => classes.build d.2 = .ok p) defs ps ∧
        cs = ⟨Entries.ofList (List.zipWith (fun d p => (d.1, p)) defs ps)⟩ := by
  have hstep : ∀ (d : String × ConditionDef) entry,
      (do let p ← classes.build d.2; pure (d.1, p)) = .ok entry ↔
        ∃ p, classes.build d.2 = .ok p ∧ entry = (d.1, p) := by
    intro d entry
    rw [Result.bind_eq_ok]
    simp only [pure, Except.pure, Except.ok.injEq, eq_comm]
  rw [build, Result.bind_eq_ok]
  simp only [Result.mapM_eq_ok, hstep, Result.forall₂_zipWith]
  constructor
  · rintro ⟨built, ⟨ps, hps, rfl⟩, h⟩
    cases h
    exact ⟨ps, hps, rfl⟩
  · rintro ⟨ps, hps, rfl⟩
    exact ⟨_, ⟨ps, hps, rfl⟩, rfl⟩

/-- A set can be built exactly if there is a predicate for every definition. -/
theorem exists_build_iff :
    (∃ cs, build classes defs = .ok cs) ↔ ∀ d ∈ defs, ∃ p, classes.build d.2 = .ok p := by
  rw [← Result.exists_forall₂]
  constructor
  · rintro ⟨cs, h⟩
    obtain ⟨ps, hps, -⟩ := build_eq_ok.mp h
    exact ⟨ps, hps⟩
  · rintro ⟨ps, hps⟩
    exact ⟨_, build_eq_ok.mpr ⟨ps, hps, rfl⟩⟩

/-- A set has the conditions that are defined, under their names. -/
theorem get?_build_eq_none_iff (h : build classes defs = .ok cs) (name : String) :
    Entries.get? name cs.entries = none ↔ Entries.get? name defs = none := by
  obtain ⟨ps, hps, rfl⟩ := build_eq_ok.mp h
  have hkeys : Entries.keys (List.zipWith (fun d p => (d.1, p)) defs ps) = Entries.keys defs := by
    clear h
    induction hps with
    | nil => rfl
    | @cons d _ _ _ _ _ ih => exact congrArg (d.1 :: ·) ih
  rw [Entries.get?_eq_none_iff, Entries.get?_eq_none_iff, Entries.keys_ofList,
    List.mem_eraseDups, hkeys]

end ConditionSet

/-! ## 2. Findings by their codes -/

namespace Document

variable {d : Document} {f : Finding}

/-- The findings about a list are those about the items that do not pass. -/
theorem mem_listFindings {α : Type} {passes : α → Bool} {finding : Nat → α → Finding}
    {items : List α} :
    f ∈ listFindings (fun i x => if passes x then none else some (finding i x)) items ↔
      ∃ i x, items[i]? = some x ∧ passes x = false ∧ f = finding i x := by
  simp only [listFindings, List.mem_filterMap, Prod.exists, List.mem_zipIdx_iff_getElem?]
  constructor
  · rintro ⟨x, i, hx, hf⟩
    cases hp : passes x with
    | true => rw [hp, if_pos rfl] at hf; cases hf
    | false => rw [hp, if_neg (by decide)] at hf; cases hf; exact ⟨i, x, hx, hp, rfl⟩
  · rintro ⟨i, x, hx, hp, rfl⟩
    exact ⟨x, i, hx, by rw [hp, if_neg (by decide)]⟩

/-- What is found of a node by itself is found of the document in whose tree it stands. -/
theorem ownFindings_subset_findings {n m : Node} (hn : n ∈ d.objects) (hm : m.Within n) :
    ∃ p, d.ownFindings p m ⊆ d.findings := by
  rw [← Node.placedFrom_nodes objectsPlace 0 d.objects] at hn
  obtain ⟨⟨q, n'⟩, hq, rfl⟩ := List.mem_map.mp hn
  obtain ⟨p, hp⟩ := Node.exists_standsAt hm q
  exact ⟨p, fun f hf => mem_findings_iff.mpr (.inr ⟨p, m, ⟨_, hq, hp⟩, hf⟩)⟩

theorem ignoredFinding?_eq_some_iff {p : Location} {n : Node} :
    ignoredFinding? p n = some f ↔ n.info.conditions.isSome = true ∧ n.kind? = some .itemsAll ∧
      f = .ignoredConditions (p.key "conditions") := by
  rw [ignoredFinding?, Option.ite_none_right_eq_some, Bool.and_eq_true, beq_iff_eq, and_assoc,
    Option.some.injEq, eq_comm (a := f)]

/-- What is found of a node by itself, by what it is about. -/
theorem mem_ownFindings_iff {p : Location} {n : Node} : f ∈ d.ownFindings p n ↔
    (∃ i spec, (n.info.conditions.getD [])[i]? = some spec ∧
      d.conditions.contains spec.name = false ∧
        f = .undefinedCondition ((p.key "conditions").index i) spec.name) ∨
    (n.info.conditions.isSome = true ∧ n.kind? = some .itemsAll ∧
      f = .ignoredConditions (p.key "conditions")) ∨
    (∃ i step, (n.info.transform.getD [])[i]? = some step ∧
      TransformRegistry.builtin.contains step.name = false ∧
        f = .unknownTransform ((p.key "transform").index i) step.name) ∨
    ∃ i limit, n.info.limits[i]? = some limit ∧ d.limitations.contains limit.limitation = false ∧
      f = .undefinedLimitation ((p.key "limits").index i) limit.limitation := by
  rw [ownFindings, List.mem_append, List.mem_append, List.mem_append, Option.mem_toList,
    ignoredFinding?_eq_some_iff, conditionFindings, transformFindings_eq, limitFindings,
    mem_listFindings, mem_listFindings, mem_listFindings, or_assoc, or_assoc]

theorem code_of_mem_ownFindings {p : Location} {n : Node} (h : f ∈ d.ownFindings p n) :
    f.code ∈ ["E003", "W003", "W001", "W002"] := by
  rcases mem_ownFindings_iff.mp h with ⟨i, spec, -, -, rfl⟩ | ⟨-, -, rfl⟩ |
    ⟨i, step, -, -, rfl⟩ | ⟨i, limit, -, -, rfl⟩ <;> simp [Finding.code]

theorem mem_definitionFindings :
    f ∈ d.definitionFindings ↔ ∃ entry ∈ d.conditions, ∃ err,
      ConditionClasses.builtin.build entry.2 = .error err ∧
        f = .unusableCondition entry.1 err := by
  rw [definitionFindings, List.mem_filterMap]
  refine exists_congr fun entry => and_congr_right fun _ => ?_
  rw [definitionFinding?]
  cases hb : ConditionClasses.builtin.build entry.2 with
  | ok p => simp
  | error err => simp [eq_comm]

/-- Linting finds, with the code E003, the references of nodes at any depth to conditions that are
not defined, each at its place. -/
theorem mem_findings_undefinedCondition :
    (f ∈ d.findings ∧ f.code = "E003") ↔
      ∃ p m specs i spec, d.StandsAt p m ∧ m.info.conditions = some specs ∧
        specs[i]? = some spec ∧ d.conditions.contains spec.name = false ∧
        f = .undefinedCondition ((p.key "conditions").index i) spec.name := by
  constructor
  · rintro ⟨hf, hcode⟩
    rcases mem_findings_iff.mp hf with hf | ⟨p, m, hm, hf⟩
    · obtain ⟨entry, -, err, -, rfl⟩ := mem_definitionFindings.mp hf
      simp [Finding.code] at hcode
    · rcases mem_ownFindings_iff.mp hf with ⟨i, spec, hi, hspec, rfl⟩ | ⟨-, -, rfl⟩ |
        ⟨i, step, -, -, rfl⟩ | ⟨i, limit, -, -, rfl⟩
      · cases hs : m.info.conditions with
        | none =>
          rw [hs] at hi
          cases hi
        | some specs =>
          rw [hs] at hi
          exact ⟨p, m, specs, i, spec, hm, hs, hi, hspec, rfl⟩
      all_goals simp [Finding.code] at hcode
  · rintro ⟨p, m, specs, i, spec, hm, hs, hi, hspec, rfl⟩
    refine ⟨mem_findings_iff.mpr (.inr ⟨p, m, hm, ?_⟩), rfl⟩
    refine mem_ownFindings_iff.mpr (.inl ⟨i, spec, ?_, hspec, rfl⟩)
    rw [hs]
    exact hi

/-- Linting finds, with the code W002, the limits of nodes at any depth for which the document
has no limitation, each at its place. -/
theorem mem_findings_undefinedLimitation :
    (f ∈ d.findings ∧ f.code = "W002") ↔
      ∃ p m i limit, d.StandsAt p m ∧ m.info.limits[i]? = some limit ∧
        d.limitations.contains limit.limitation = false ∧
        f = .undefinedLimitation ((p.key "limits").index i) limit.limitation := by
  constructor
  · rintro ⟨hf, hcode⟩
    rcases mem_findings_iff.mp hf with hf | ⟨p, m, hm, hf⟩
    · obtain ⟨entry, -, err, -, rfl⟩ := mem_definitionFindings.mp hf
      simp [Finding.code] at hcode
    · rcases mem_ownFindings_iff.mp hf with ⟨i, spec, -, -, rfl⟩ | ⟨-, -, rfl⟩ |
        ⟨i, step, -, -, rfl⟩ | ⟨i, limit, hi, hlimit, rfl⟩
      · simp [Finding.code] at hcode
      · simp [Finding.code] at hcode
      · simp [Finding.code] at hcode
      · exact ⟨p, m, i, limit, hm, hi, hlimit, rfl⟩
  · rintro ⟨p, m, i, limit, hm, hi, hlimit, rfl⟩
    exact ⟨mem_findings_iff.mpr (.inr ⟨p, m, hm,
      mem_ownFindings_iff.mpr (.inr (.inr (.inr ⟨i, limit, hi, hlimit, rfl⟩)))⟩), rfl⟩

/-- Every condition that a node refers to is defined, unless that is found. -/
theorem defined_of_not_found {n m : Node} (hn : n ∈ d.objects) (hm : m.Within n)
    (h : ∀ f ∈ d.findings, f.code ≠ "E003") {specs : List ConditionSpec}
    (hs : m.info.conditions = some specs) {spec : ConditionSpec} (hspec : spec ∈ specs) :
    d.conditions.contains spec.name = true := by
  by_contra hc
  obtain ⟨p, hp⟩ := ownFindings_subset_findings hn hm
  obtain ⟨i, hi⟩ := List.mem_iff_getElem?.mp hspec
  have hf : .undefinedCondition ((p.key "conditions").index i) spec.name ∈ d.ownFindings p m := by
    refine mem_ownFindings_iff.mpr (.inl ⟨i, spec, ?_, by simpa using hc, rfl⟩)
    rw [hs]
    exact hi
  exact h _ (hp hf) rfl

/-- Every transform of a node is one that is always there, unless that is found. -/
theorem builtin_of_not_found {n m : Node} (hn : n ∈ d.objects) (hm : m.Within n)
    (h : ∀ f ∈ d.findings, f.code ≠ "W001") {steps : TransformSpec}
    (hs : m.info.transform = some steps) {step : TransformStep} (hstep : step ∈ steps) :
    TransformRegistry.builtin.contains step.name = true := by
  by_contra hc
  obtain ⟨p, hp⟩ := ownFindings_subset_findings hn hm
  obtain ⟨i, hi⟩ := List.mem_iff_getElem?.mp hstep
  have hf : .unknownTransform ((p.key "transform").index i) step.name ∈ d.ownFindings p m := by
    refine mem_ownFindings_iff.mpr (.inr (.inr (.inl ⟨i, step, ?_, by simpa using hc, rfl⟩)))
    rw [hs]
    exact hi
  exact h _ (hp hf) rfl

end Document

/-! ## 3. Linting and running -/

/-- What a run can fail with. -/
def MappingError.OfRun (err : MappingError) : Prop :=
  (∃ f, err = .notArray f) ∨ (∃ t, err = .transform t) ∨
    ∃ name, err = .condition (.unknown name)

namespace Engine

open Reporting

/-- **A run fails over a `*`, a transform or an unknown condition**, and over nothing that
loading or building looks for. -/
theorem onlyFails_ofRun (e : Engine) (input : Json) :
    OnlyFails MappingError.OfRun (e.apply input) := by
  refine onlyFails_apply (fun n _ m _ => ?_) input
  refine ⟨fun f => .inl ⟨f, rfl⟩, fun _ _ _ _ => .inr (.inr ⟨_, rfl⟩), ?_⟩
  exact fun _ _ _ v t _ => .inr (.inl ⟨t, rfl⟩)

variable {v : Json} {o : Options} {e : Engine}

/-- An engine comes from a loaded document, whose conditions it has built. -/
theorem ofJson_eq_ok (h : ofJson v o = .ok e) :
    ∃ d, Document.ofJson v = .ok d ∧ e.document = d ∧ e.transforms = registry o ∧
      ConditionSet.build (classes o) d.conditions = .ok e.conditions := by
  obtain ⟨d, hd, h⟩ := Result.bind_eq_ok.mp h
  unfold ofDocument at h
  split at h
  · next conditions hb =>
    cases h
    exact ⟨d, hd, rfl, rfl, hb⟩
  · cases h

theorem exists_engine_iff :
    (∃ e, ofJson v {} = .ok e) ↔ ¬v.Reports "E002" ∧ ¬v.Reports "E004" := by
  cases hd : Document.ofJson v with
  | error err =>
    have hlint : v.lint = [.malformed err] := by rw [Json.lint, hd]
    constructor
    · rintro ⟨e, h⟩
      obtain ⟨d, hd', -⟩ := ofJson_eq_ok h
      rw [hd] at hd'
      cases hd'
    · rintro ⟨h, -⟩
      exact absurd ⟨_, by rw [hlint]; exact List.mem_singleton_self _, rfl⟩ h
  | ok d =>
    have hlint := Json.lint_eq_findings hd
    constructor
    · rintro ⟨e, h⟩
      obtain ⟨d', hd', -, -, hb⟩ := ofJson_eq_ok h
      rw [hd] at hd'
      cases hd'
      have hall : ∀ entry ∈ d.conditions, ∃ p, ConditionClasses.builtin.build entry.2 = .ok p :=
        ConditionSet.exists_build_iff.mp ⟨_, hb⟩
      have hcode : ∀ f ∈ v.lint, f.code ∈ ["E003", "W003", "W001", "W002"] := by
        intro f hf
        rw [hlint] at hf
        rcases Document.mem_findings_iff.mp hf with hf | ⟨p, m, -, hf⟩
        · obtain ⟨entry, hentry, err, herr, -⟩ := Document.mem_definitionFindings.mp hf
          obtain ⟨p, hp⟩ := hall entry hentry
          rw [hp] at herr
          cases herr
        · exact Document.code_of_mem_ownFindings hf
      constructor
      · rintro ⟨f, hf, hc⟩
        exact absurd (hc ▸ hcode f hf) (by decide)
      · rintro ⟨f, hf, hc⟩
        exact absurd (hc ▸ hcode f hf) (by decide)
    · rintro ⟨-, h⟩
      have hall : ∀ entry ∈ d.conditions, ∃ p, ConditionClasses.builtin.build entry.2 = .ok p := by
        intro entry hentry
        cases hb : ConditionClasses.builtin.build entry.2 with
        | ok p => exact ⟨p, rfl⟩
        | error err =>
          refine absurd ⟨.unusableCondition entry.1 err, ?_, rfl⟩ h
          rw [hlint, Document.findings]
          exact List.mem_append_left _
            (Document.mem_definitionFindings.mpr ⟨entry, hentry, err, hb, rfl⟩)
      obtain ⟨cs, hcs⟩ := ConditionSet.exists_build_iff.mpr hall
      refine ⟨⟨d, cs, registry {}⟩, ?_⟩
      have hbuild : ofDocument d {} = .ok ⟨d, cs, registry {}⟩ := by
        have hcs' : ConditionSet.build (classes {}) d.conditions = .ok cs := hcs
        rw [ofDocument, hcs']
      rw [ofJson, hd]
      exact hbuild

/-- What is found of a value is found of the document of its engine. -/
theorem not_found_of_not_reports {code : String} (he : ofJson v o = .ok e)
    (h : ¬v.Reports code) : ∀ f ∈ e.document.findings, f.code ≠ code := by
  obtain ⟨d, hd, rfl, -, -⟩ := ofJson_eq_ok he
  rw [← Json.lint_eq_findings hd]
  exact fun f hf hc => h ⟨f, hf, hc⟩

/-- Without a finding about conditions no run, of an engine with any options, looks for one
that is not there. -/
theorem not_unknownCondition (h : ¬v.Reports "E003") (he : ofJson v o = .ok e) (input : Json)
    (name : String) : (e.apply input).result ≠ .error (.condition (.unknown name)) := by
  have hnone := not_found_of_not_reports he h
  obtain ⟨d, -, rfl, -, hb⟩ := ofJson_eq_ok he
  have hrun : OnlyFails (fun err => ∀ name, err ≠ .condition (.unknown name))
      (e.apply input) := by
    refine onlyFails_apply (fun n hn m hm => ⟨?_, ?_, ?_⟩) input
    · intro f name h
      cases h
    · -- a run looks up only what a node refers to, and all of that is defined
      intro specs hs spec hspec hget
      have hdef := Document.defined_of_not_found hn hm hnone hs hspec
      rw [ConditionSet.get?_build_eq_none_iff hb] at hget
      rw [Entries.contains, hget] at hdef
      cases hdef
    · intro steps hs step hstep w t ht name h
      cases h
  exact fun herr => hrun _ herr name rfl

/-- Without a finding about transforms no run with default options looks for one that is not
there. -/
theorem not_unknownTransform (h : ¬v.Reports "W001") (he : ofJson v {} = .ok e) (input : Json)
    (name : String) : (e.apply input).result ≠ .error (.transform (.unknown name)) := by
  have hnone := not_found_of_not_reports he h
  obtain ⟨d, -, rfl, hr, -⟩ := ofJson_eq_ok he
  have hbuiltin : e.transforms = .builtin := hr
  have hrun : OnlyFails (fun err => ∀ name, err ≠ .transform (.unknown name))
      (e.apply input) := by
    refine onlyFails_apply (fun n hn m hm => ⟨?_, ?_, ?_⟩) input
    · intro f name h
      cases h
    · intro specs hs spec hspec hget name h
      cases h
    · intro steps hs step hstep w t ht name h
      rw [hbuiltin] at ht
      have hname := Document.builtin_of_not_found hn hm hnone hs hstep
      cases h
      exact Transform.onlyFails_applyStep hname w _ ht name rfl
  exact fun herr => hrun _ herr name rfl

/-- **Linting is sound for runs with default options.**  There is an engine exactly if neither
the shape of the document nor a definition is found faulty.  If no reference to a condition is
found faulty, no run fails over an unknown condition; if no transform is found missing, no run
fails over an unknown transform.  Runs fail over nothing that loading or building checks.  So
a document without such findings runs, and fails only over a `*` or in a transform. -/
theorem lint_sound (v : Json) :
    ((∃ e, ofJson v {} = .ok e) ↔ ¬v.Reports "E002" ∧ ¬v.Reports "E004") ∧
    (¬v.Reports "E003" → ∀ o e, ofJson v o = .ok e → ∀ input name,
      (e.apply input).result ≠ .error (.condition (.unknown name))) ∧
    (¬v.Reports "W001" → ∀ e, ofJson v {} = .ok e → ∀ input name,
      (e.apply input).result ≠ .error (.transform (.unknown name))) ∧
    (∀ (e : Engine) input err, (e.apply input).result = .error err → err.OfRun) ∧
    (¬v.Reports "E002" → ¬v.Reports "E003" → ¬v.Reports "E004" → ¬v.Reports "W001" →
      ∃ e, ofJson v {} = .ok e ∧ ∀ input err, (e.apply input).result = .error err →
        (∃ f, err = .notArray f) ∨ (∃ name text, err = .transform (.invalidArguments name text)) ∨
          ∃ name text, err = .transform (.failed name text)) := by
  refine ⟨exists_engine_iff, fun h o e he => not_unknownCondition h he,
    fun h e he => not_unknownTransform h he, onlyFails_ofRun, ?_⟩
  intro h2 h3 h4 hw
  obtain ⟨e, he⟩ := exists_engine_iff.mpr ⟨h2, h4⟩
  refine ⟨e, he, fun input err herr => ?_⟩
  rcases onlyFails_ofRun e input err herr with ⟨f, rfl⟩ | ⟨t, rfl⟩ | ⟨name, rfl⟩
  · exact .inl ⟨f, rfl⟩
  · cases t with
    | unknown name => exact absurd herr (not_unknownTransform hw he input name)
    | invalidArguments name text => exact .inr (.inl ⟨name, text, rfl⟩)
    | failed name text => exact .inr (.inr ⟨name, text, rfl⟩)
  · exact absurd herr (not_unknownCondition h3 he input name)

/-- A document in which every name that a node refers to is defined. -/
def usersDocument : Json :=
  .obj [("conditions", .obj [("named", .obj [("class", .str "Present")])]),
    ("objects", .arr [.obj [("name", .str "users"), ("path", .str "users/*"),
      ("conditions", .arr [.obj [("name", .str "named"), ("field", .str "name")]]),
      ("attributes", .arr [.obj [("name", .str "name"), ("path", .str "name"),
        ("transform", .str "downcase")]])]])]

theorem usersDocument_sound :
    usersDocument.lint = [] ∧
    (∃ e, ofJson usersDocument {} = .ok e ∧ ∀ input err, (e.apply input).result = .error err →
      (∃ f, err = .notArray f) ∨ (∃ name text, err = .transform (.invalidArguments name text)) ∨
        ∃ name text, err = .transform (.failed name text)) ∧
    ∃ e, ofJson usersDocument {} = .ok e ∧ (∀ input name,
      (e.apply input).result ≠ .error (.condition (.unknown name))) ∧ ∀ input name,
      (e.apply input).result ≠ .error (.transform (.unknown name)) := by
  have hlint : usersDocument.lint = [] := rfl
  have hnone : ∀ code, ¬usersDocument.Reports code := by
    rintro code ⟨f, hf, -⟩
    rw [hlint] at hf
    cases hf
  obtain ⟨hengine, hcondition, htransform, -, hruns⟩ := lint_sound usersDocument
  obtain ⟨e, he⟩ := hengine.mpr ⟨hnone _, hnone _⟩
  exact ⟨hlint, hruns (hnone _) (hnone _) (hnone _) (hnone _), e, he,
    hcondition (hnone _) {} e he, htransform (hnone _) e he⟩

end Engine

end Reshape
