/-
# Candidates and conditions

Three kinds of nodes put each of their candidates through conditions before they map it:
`attributes`, `items` and `hash`.  They do it in one way (`rounds`, `mapNode_eq_rounds`): what
the conditions leave of a candidate takes its place, and a candidate of which they leave
nothing is passed over.

Conditions without outputs leave a candidate that is no array once for each spec that holds
on it.  They filter candidates, therefore, exactly where no two specs hold on one candidate;
where more of them hold the child nodes see an array of copies instead.

Main statement: `mapNode_survivors`.
-/
import Reshape.Engine
import Reshape.Proofs.Condition.Filtering

namespace Reshape

/-! ## 1. Nodes without conditions -/

/-- A node that says the same but has no conditions. -/
def NodeInfo.unconditional (info : NodeInfo) : NodeInfo := { info with conditions := none }

/-- A node that puts no candidate through conditions, and is otherwise the same. -/
def Node.unconditional : Node → Node
  | .attributes info path fields => .attributes info.unconditional path fields
  | .items info path groups => .items info.unconditional path groups
  | .hash info path fields => .hash info.unconditional path fields
  | n => n

/-- The kinds of nodes that put their candidates through conditions. -/
def Node.Filters (n : Node) : Prop :=
  n.kind? = some .attributes ∨ n.kind? = some .items ∨ n.kind? = some .hash

namespace Engine

open Reporting ConditionSet

variable {e : Engine} {info : NodeInfo} {path : Path} {params : Parameters}

/-- What a node makes of candidates, when it puts them through no conditions. -/
def mapCandidates (e : Engine) : Node → List Json → Parameters → Reporting MappingError Json
  | .attributes info path fields, candidates, params => do
    let sets ← candidates.mapM fun item => do
      let fs ← e.mapFields fields item params
      pure (e.attributeSet info.limits fs)
    e.transform info (collapseSets path (sets.filterMap id))
  | .items info _ groups, candidates, params => do
    let sets ← candidates.mapM fun item => e.mapGroups groups info.limits item params
    e.transform info (.arr sets.flatten)
  | .hash _ _ fields, candidates, params => do
    let written ← candidates.mapM fun item => do
      let fs ← e.mapFields fields item params
      pure (entriesOf fs)
    pure (.obj (Entries.ofList written.flatten))
  | _, _, _ => pure .null

theorem mapNode_unconditional {n : Node} (hn : n.Filters) (hp : n.path? = some path)
    {input found : Json} (hf : (resolve path input).result = .ok (some found)) :
    (e.mapNode n.unconditional input params).result =
      (e.mapCandidates n found.candidates params).result := by
  cases n with
  | attributes =>
    cases hp
    rw [Node.unconditional, mapNode, result_bind_of_ok hf]
    rfl
  | items =>
    cases hp
    rw [Node.unconditional, mapNode, result_bind_of_ok hf]
    rfl
  | hash =>
    cases hp
    rw [Node.unconditional, mapNode, result_bind_of_ok hf]
    rfl
  | _ => simp [Node.Filters, Node.kind?] at hn

/-! ## 2. Rounds over candidates -/

/-- Rounds over candidates: what the conditions leave of each goes through a round, and what
the rounds come to is put one after the other. -/
def rounds {γ : Type} (e : Engine) (info : NodeInfo)
    (round : Json → Reporting MappingError (List γ)) (candidates : List Json) :
    Reporting MappingError (List γ) := do
  let parts ← candidates.mapM fun candidate => do
    match ← e.filterCandidate info candidate with
    | none => pure []
    | some item => round item
  pure parts.flatten

variable {γ : Type} {round : Json → Reporting MappingError (List γ)}

theorem rounds_cons (c : Json) (candidates : List Json) :
    e.rounds info round (c :: candidates) = (do
      match ← e.filterCandidate info c with
      | none => e.rounds info round candidates
      | some item => do
        let part ← round item
        let parts ← e.rounds info round candidates
        pure (part ++ parts)) := by
  rw [rounds, List.mapM_cons]
  simp only [bind_assoc]
  congr
  funext item?
  cases item? with
  | none => simp [rounds]
  | some item => simp [rounds]

/-- Rounds go over what the conditions leave of the candidates. -/
theorem result_rounds {candidates : List Json} {left : List (Option Json)}
    (h : List.Forall₂ (fun c o => (e.filterCandidate info c).result = .ok o) candidates left) :
    (e.rounds info round candidates).result =
      (e.rounds info.unconditional round (left.filterMap id)).result := by
  induction h with
  | nil => rfl
  | @cons c o candidates left ho _ ih =>
    rw [rounds_cons, result_bind_of_ok ho]
    cases o with
    | none => exact ih
    | some item =>
      have hitem : (e.filterCandidate info.unconditional item).result = .ok (some item) := rfl
      have hleft : (some item :: left).filterMap id = item :: left.filterMap id := rfl
      rw [hleft, rounds_cons, result_bind_of_ok hitem]
      simp only [result_bind, ih]

/-- The rounds of a node that makes a set of each candidate. -/
theorem filterMap_rounds (set? : Json → Reporting MappingError (Option γ))
    (candidates : List Json) :
    (do let sets ← candidates.mapM fun candidate => do
          match ← e.filterCandidate info candidate with
          | none => pure none
          | some item => set? item
        pure (sets.filterMap id)) =
      e.rounds info (fun item => do
        let set ← set? item
        pure set.toList) candidates := by
  induction candidates with
  | nil => rfl
  | cons c candidates ih =>
    rw [rounds_cons, ← ih, List.mapM_cons]
    simp only [bind_assoc, pure_bind]
    congr
    funext item?
    cases item? with
    | none => rfl
    | some item =>
      dsimp only
      congr
      funext set
      congr
      funext sets
      cases set <;> rfl

theorem rounds_bind (candidates : List Json) (finish : List γ → Reporting MappingError Json) :
    e.rounds info round candidates >>= finish =
      (candidates.mapM fun candidate => do
        match ← e.filterCandidate info candidate with
        | none => pure []
        | some item => round item) >>= fun parts => finish parts.flatten := by
  rw [rounds, bind_assoc]
  exact bind_congr fun parts => pure_bind _ _

theorem rounds_sets_bind (set? : Json → Reporting MappingError (Option γ))
    (candidates : List Json) (finish : List γ → Reporting MappingError Json) :
    e.rounds info (fun item => do
        let set ← set? item
        pure set.toList) candidates >>= finish =
      (candidates.mapM fun candidate => do
        match ← e.filterCandidate info candidate with
        | none => pure none
        | some item => set? item) >>= fun sets => finish (sets.filterMap id) := by
  rw [← filterMap_rounds, bind_assoc]
  exact bind_congr fun sets => pure_bind _ _

/-- **The kinds of nodes with conditions go over their candidates in one way.**  What they do
with what the rounds come to has nothing to do with the conditions. -/
theorem mapNode_eq_rounds (e : Engine) {n : Node} (hn : n.Filters) (hp : n.path? = some path)
    (params : Parameters) :
    ∃ (γ : Type) (round : Json → Reporting MappingError (List γ))
      (finish : List γ → Reporting MappingError Json),
      (∀ {input found : Json}, (resolve path input).result = .ok (some found) →
        (e.mapNode n input params).result =
          (e.rounds n.info round found.candidates >>= finish).result) ∧
      ∀ candidates, (e.mapCandidates n candidates params).result =
        (e.rounds n.info.unconditional round candidates >>= finish).result := by
  cases n with
  | attributes info path fields =>
    cases hp
    refine ⟨Json, fun item => do
      let set ← (do let fs ← e.mapFields fields item params; pure (e.attributeSet info.limits fs))
      pure set.toList, fun sets => e.transform info (collapseSets path sets), ?_, ?_⟩
    · intro input found hf
      rw [mapNode, result_bind_of_ok hf, rounds_sets_bind]
      rfl
    · intro candidates
      rw [rounds_sets_bind]
      rfl
  | items info path groups =>
    cases hp
    refine ⟨Json, fun item => e.mapGroups groups info.limits item params,
      fun sets => e.transform info (.arr sets), ?_, ?_⟩
    · intro input found hf
      rw [mapNode, result_bind_of_ok hf, rounds_bind]
      rfl
    · intro candidates
      rw [rounds_bind]
      rfl
  | hash info path fields =>
    cases hp
    refine ⟨String × Json, fun item => do
      let fs ← e.mapFields fields item params
      pure (entriesOf fs), fun written => pure (.obj (Entries.ofList written)), ?_, ?_⟩
    · intro input found hf
      rw [mapNode, result_bind_of_ok hf, rounds_bind]
      rfl
    · intro candidates
      rw [rounds_bind]
      rfl
  | _ => simp [Node.Filters, Node.kind?] at hn

/-! ## 3. Filtering -/

/-- What a filter leaves of a candidate on which `k` specs hold. -/
def passed (c : Json) (k : Nat) : Option Json := if 0 < k then some c else none

/-- What becomes of a candidate.  Of one that is no array, what `made` says for the number of
specs that hold on it; the elements of an array go through the specs one by one
(`result_apply_eq_ok`), whatever `made` says. -/
inductive Becomes (cs : ConditionSet) (specs : List ConditionSpec)
    (made : Json → Nat → Option Json) (c : Json) : Option Json → Prop
  | single {k : Nat} (hm : c.isMany = false) (hk : Holds cs specs c k) :
      Becomes cs specs made c (made c k)
  | many {o : Option Json} (hm : c.isMany = true) (ho : (cs.apply c specs).result = .ok o) :
      Becomes cs specs made c o

variable {specs : List ConditionSpec}

/-- Conditions without outputs leave copies of a candidate that is no array. -/
theorem result_filterCandidate (hc : info.conditions = some specs)
    (ho : ∀ spec ∈ specs, spec.output = none) {c : Json} {o : Option Json} :
    (e.filterCandidate info c).result = .ok o ↔ Becomes e.conditions specs survivor c o := by
  rw [filterCandidate, hc]
  constructor
  · intro h
    cases hm : c.isMany with
    | true => exact .many hm h
    | false =>
      obtain ⟨k, hk, rfl⟩ := (result_apply_single hm ho).mp h
      exact .single hm hk
  · rintro (⟨hm, hk⟩ | ⟨-, h⟩)
    · exact (result_apply_single hm ho).mpr ⟨_, hk, rfl⟩
    · exact h

/-- Copies of a candidate are left exactly where a filter leaves the candidate, and they are the
candidate only if there are no two of them. -/
theorem survivor_passed {c : Json} (hm : c.isMany = false) (k : Nat) :
    (survivor c k).isSome = (passed c k).isSome ∧ (survivor c k = passed c k ↔ k ≤ 1) := by
  match k with
  | 0 => simp [survivor, passed]
  | 1 => simp [survivor, passed]
  | k + 2 =>
    -- the copies are an array, which the candidate is not
    have hne : .arr (List.replicate (k + 2) c) ≠ c := by
      intro h
      rw [← h] at hm
      cases hm
    simp [survivor, passed, hne]

theorem Becomes.survivor_passed {cs : ConditionSet} {c : Json} {o o' : Option Json}
    (h : Becomes cs specs survivor c o) (h' : Becomes cs specs passed c o') :
    o.isSome = o'.isSome ∧
      (o = o' ↔ (c.isMany = false → ∀ k, Holds cs specs c k → k ≤ 1)) := by
  cases h with
  | many hm ho =>
    cases h' with
    | single hm' => simp [hm] at hm'
    | many _ ho' =>
      obtain rfl : o = o' := Except.ok.inj (ho.symm.trans ho')
      simp [hm]
  | @single k hm hk =>
    cases h' with
    | many hm' => simp [hm] at hm'
    | @single k' _ hk' =>
      obtain rfl := hk.unique hk'
      obtain ⟨hsome, hiff⟩ := Engine.survivor_passed hm k
      exact ⟨hsome, hiff.trans ⟨fun hone _ k' hk' => hk.unique hk' ▸ hone, fun h => h hm k hk⟩⟩

theorem filterMap_id_cons_eq_iff {o o' : Option Json} (h : o.isSome = o'.isSome)
    (left kept : List (Option Json)) :
    (o :: left).filterMap id = (o' :: kept).filterMap id ↔
      o = o' ∧ left.filterMap id = kept.filterMap id := by
  cases o with
  | none =>
    have hnone : o' = none := by simpa using h
    simp [hnone]
  | some v =>
    obtain ⟨v', rfl⟩ := Option.isSome_iff_exists.mp h.symm
    simp

/-- **Only the candidates themselves are left exactly if no two specs hold on one of them.**
Arrays among the candidates make no difference. -/
theorem left_eq_kept_iff {cs : ConditionSet} {candidates : List Json}
    {left kept : List (Option Json)}
    (hl : List.Forall₂ (Becomes cs specs survivor) candidates left)
    (hk : List.Forall₂ (Becomes cs specs passed) candidates kept) :
    left.filterMap id = kept.filterMap id ↔
      ∀ c ∈ candidates, c.isMany = false → ∀ k, Holds cs specs c k → k ≤ 1 := by
  induction hl generalizing kept with
  | nil =>
    cases hk
    simp
  | cons ho _ ih =>
    cases hk with
    | cons ho' hkept =>
      obtain ⟨hsome, hiff⟩ := ho.survivor_passed ho'
      rw [filterMap_id_cons_eq_iff hsome, hiff, ih hkept, List.forall_mem_cons]

/-- **What a node makes of candidates is what it makes, without its conditions, of what they
leave.**  Evaluation succeeds only if every spec has a verdict on every candidate.  Each
candidate that is no array is left as it is, or passed over, exactly if at most one spec holds
on each of them. -/
theorem mapNode_survivors {n : Node} {input found : Json}
    (hn : n.Filters) (hc : n.info.conditions = some specs)
    (ho : ∀ spec ∈ specs, spec.output = none) (hp : n.path? = some path)
    (hf : (resolve path input).result = .ok (some found)) :
    (e.mapNode n.unconditional input params).result =
      (e.mapCandidates n found.candidates params).result ∧
    ((∃ v, (e.mapNode n input params).result = .ok v) →
      ∃ left, List.Forall₂ (Becomes e.conditions specs survivor) found.candidates left) ∧
    ∀ left, List.Forall₂ (Becomes e.conditions specs survivor) found.candidates left →
      (e.mapNode n input params).result =
        (e.mapCandidates n (left.filterMap id) params).result ∧
      ∀ kept, List.Forall₂ (Becomes e.conditions specs passed) found.candidates kept →
        (left.filterMap id = kept.filterMap id ↔
          ∀ c ∈ found.candidates, c.isMany = false →
            ∀ k, Holds e.conditions specs c k → k ≤ 1) := by
  obtain ⟨γ, round, finish, hnode, hcandidates⟩ := mapNode_eq_rounds e hn hp params
  refine ⟨mapNode_unconditional hn hp hf, ?_, ?_⟩
  · rintro ⟨v, hv⟩
    rw [hnode hf] at hv
    obtain ⟨parts, hr, -⟩ := result_bind_eq_ok.mp hv
    obtain ⟨parts, hr, -⟩ := result_bind_eq_ok.mp hr
    have hall := Result.exists_forall₂.mp ⟨parts, result_mapM_eq_ok.mp hr⟩
    refine Result.exists_forall₂.mpr fun c hcand => ?_
    obtain ⟨part, h⟩ := hall c hcand
    obtain ⟨o, ho', -⟩ := result_bind_eq_ok.mp h
    exact ⟨o, (result_filterCandidate hc ho).mp ho'⟩
  · intro left hleft
    refine ⟨?_, fun kept hkept => left_eq_kept_iff hleft hkept⟩
    have hfilter := hleft.imp fun c o => (result_filterCandidate (o := o) hc ho).mpr
    rw [hnode hf, hcandidates, result_bind, result_bind, result_rounds hfilter]

/-! ## 4. Two conditions -/

/-- An engine with a condition that holds of what is not blank. -/
def taskEngine : Engine where
  document := ⟨[], ⟨[]⟩, []⟩
  conditions := ⟨[("present", fun v => !v.isBlank)]⟩
  transforms := registry {}

/-- The specs of tasks: tasks that are not empty, and tasks with an owner. -/
def taskSpecs : List ConditionSpec :=
  [⟨"present", none, none⟩, ⟨"present", some (.ofString "owner"), none⟩]

/-- The ids of the tasks that meet a spec. -/
def taskNode : Node :=
  .attributes ⟨"tasks", none, some taskSpecs, [], none, false⟩ (.ofString "tasks/*")
    [.value ⟨"id", none, none, [], none, false⟩ (some (.ofString "id"))]

/-- An input with tasks. -/
def tasks (vs : List Json) : Json := .obj [("tasks", .arr vs)]

/-- A task with an owner, on which both specs hold. -/
def ownedTask : Json := .obj [("id", .int 1), ("owner", .str "ann")]

/-- A task without one. -/
def freeTask : Json := .obj [("id", .int 2)]

/-- Tasks of which one is empty and one is a list of tasks. -/
def taskList : List Json := [ownedTask, .obj [], .arr [ownedTask, freeTask], freeTask]

/-- What the specs leave of them. -/
def taskOutcomes : List (Option Json) :=
  [some (.arr [ownedTask, ownedTask]), none,
    some (.arr [.arr [ownedTask, freeTask], .arr [ownedTask]]), some freeTask]

/-- The specs hold on a task that is not empty, and on one whose owner is not blank. -/
theorem taskSpecs_hold {c : Json} {owner : Option Json} (b b' : Bool) (hb : (!c.isBlank) = b)
    (hr : ((Path.ofString "owner").resolve c).result = .ok owner)
    (hb' : (!(owner.getD .null).isBlank) = b') :
    Holds taskEngine.conditions taskSpecs c ([b, b'].count true) := by
  subst hb hb'
  exact ⟨_, .cons (.of rfl (.itself rfl)) (.cons (.of rfl (.field rfl hr)) .nil), rfl⟩

theorem ownedTask_holds : Holds taskEngine.conditions taskSpecs ownedTask 2 :=
  taskSpecs_hold true true rfl rfl rfl

theorem taskList_becomes :
    List.Forall₂ (Becomes taskEngine.conditions taskSpecs survivor) taskList taskOutcomes :=
  have hnone : Holds taskEngine.conditions taskSpecs (.obj []) 0 :=
    taskSpecs_hold false false rfl rfl rfl
  have hone : Holds taskEngine.conditions taskSpecs freeTask 1 :=
    taskSpecs_hold true false rfl rfl rfl
  .cons (.single rfl ownedTask_holds) (.cons (.single rfl hnone)
    (.cons (.many rfl rfl) (.cons (.single rfl hone) .nil)))

theorem taskNode_survivors :
    taskNode.Filters ∧ taskNode.info.conditions = some taskSpecs ∧
    (∀ spec ∈ taskSpecs, spec.output = none) ∧ taskNode.path? = some (.ofString "tasks/*") ∧
    (resolve (.ofString "tasks/*") (tasks taskList)).result = .ok (some (.arr taskList)) ∧
    (taskEngine.mapNode taskNode (tasks taskList) []).result =
      (taskEngine.mapCandidates taskNode [.arr [ownedTask, ownedTask],
        .arr [.arr [ownedTask, freeTask], .arr [ownedTask]], freeTask] []).result :=
  have hn : taskNode.Filters := .inl rfl
  have ho : ∀ spec ∈ taskSpecs, spec.output = none := by decide
  have hf : (resolve (.ofString "tasks/*") (tasks taskList)).result =
      .ok (some (.arr taskList)) := rfl
  ⟨hn, rfl, ho, rfl, hf,
    ((mapNode_survivors hn rfl ho rfl hf).2.2 taskOutcomes taskList_becomes).1⟩

/-- **Two specs that hold are not one.**  The id of the owned task is not found, since it is
looked up in an array of two copies; without conditions it is. -/
theorem taskNode_copies :
    taskNode.Filters ∧ (∀ spec ∈ taskSpecs, spec.output = none) ∧ ownedTask.isMany = false ∧
    Holds taskEngine.conditions taskSpecs ownedTask 2 ∧
    (taskEngine.mapNode taskNode (tasks [ownedTask]) []).result =
      .ok (.arr [.obj [("id", .null)]]) ∧
    (taskEngine.mapNode taskNode.unconditional (tasks [ownedTask]) []).result =
      .ok (.arr [.obj [("id", .int 1)]]) :=
  ⟨.inl rfl, by decide, rfl, ownedTask_holds, rfl, rfl⟩

end Engine

end Reshape
