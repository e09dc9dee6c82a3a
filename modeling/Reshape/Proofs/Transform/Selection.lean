/-
# Items selected by what they lead to

`hashes_array_filter` takes a chain of keys, written with stars between them (`Spells`), and a text.
It keeps the items of an array from which the keys, followed one by one through nested objects, lead
to that text (`Leads`); all others are dropped, also where a key is missing or a value on the way is
no object.

Whether an item is kept hangs on the item alone, and is the same for values that are the same.  So
two selections can be made in either order, one made twice is made once, and a selection can be made
before repetitions are dropped or after.

Main statement: `hashesFilter_selects`.
-/
import Reshape.Proofs.Json.Dedup
import Reshape.Proofs.Transform.Equality

namespace Reshape.Transform

variable {chain text key : String} {keys : List String} {v : Json} {items : List Json}

/-! ## 1. Chains of keys -/

/-- A text writes keys, at least one, with a star between neighbours; no key has a star. -/
structure Spells (chain : String) (keys : List String) : Prop where
  written : Text.join '*' keys = chain
  nonempty : keys ≠ []
  starless : ∀ key ∈ keys, '*' ∉ key.toList

/-- Every text writes keys, and only these. -/
theorem spells_iff : Spells chain keys ↔ keys = Text.split '*' chain := by
  constructor
  · rintro ⟨rfl, hne, hkeys⟩
    exact (Text.split_join hne hkeys).symm
  · rintro rfl
    exact ⟨Text.join_split chain, Text.split_ne_nil chain, fun _ => Text.not_mem_of_mem_split⟩

/-- Keys, followed through nested objects, lead from a value to a text. -/
inductive Leads (text : String) : List String → Json → Prop
  | here : Leads text [] (.str text)
  | through {key : String} {keys : List String} {es : Entries Json} {v : Json}
      (hget : Entries.get? key es = some v) (h : Leads text keys v) :
      Leads text (key :: keys) (.obj es)

theorem leadsTo_cons : leadsTo (key :: keys) text v =
    (Json.get? key v).any (leadsTo keys text) := by
  rw [leadsTo, List.foldlM_cons]
  cases Json.get? key v <;> rfl

theorem leadsTo_iff : leadsTo keys text v = true ↔ Leads text keys v := by
  induction keys generalizing v with
  | nil =>
    constructor
    · intro h
      cases v with
      | str s =>
        rw [← eq_of_beq h]
        exact .here
      | _ => cases h
    · rintro ⟨⟩
      exact beq_self_eq_true text
  | cons key keys ih =>
    rw [leadsTo_cons, Option.any_eq_true]
    constructor
    · rintro ⟨w, hw, h⟩
      cases v with
      | obj es => exact .through hw (ih.mp h)
      | _ => cases hw
    · rintro (_ | ⟨hget, h⟩)
      exact ⟨_, hget, ih.mpr h⟩

instance (text : String) (keys : List String) (v : Json) : Decidable (Leads text keys v) :=
  decidable_of_iff _ leadsTo_iff

/-! ## 2. Selections -/

/-- What a chain and a text select from an array. -/
def selected (chain text : String) (items : List Json) : List Json :=
  items.filter (leadsTo (Text.split '*' chain) text)

theorem hashesFilter_arr (chain text : String) (items : List Json) :
    hashesFilter (.arr items) [chain, text] = pure (.arr (selected chain text items)) := rfl

theorem uniqArray_arr (items : List Json) :
    uniqArray (.arr items) [] = pure (.arr (Json.dedup items)) := rfl

theorem selected_eq (h : Spells chain keys) (text : String) (items : List Json) :
    selected chain text items = items.filter fun v => Leads text keys v := by
  refine List.filter_congr fun v _ => ?_
  rw [← spells_iff.mp h, Bool.eq_iff_iff, decide_eq_true_iff, leadsTo_iff]

theorem selected_comm (chain text chain' text' : String) (items : List Json) :
    selected chain' text' (selected chain text items) =
      selected chain text (selected chain' text' items) := by
  unfold selected
  rw [List.filter_filter, List.filter_filter]
  exact List.filter_congr fun v _ => Bool.and_comm _ _

theorem selected_selected (chain text : String) (items : List Json) :
    selected chain text (selected chain text items) = selected chain text items := by
  unfold selected
  rw [List.filter_filter]
  exact List.filter_congr fun v _ => Bool.and_self _

theorem selected_dedup (chain text : String) (items : List Json) :
    selected chain text (Json.dedup items) = Json.dedup (selected chain text items) :=
  Json.filter_dedup (fun _ _ => leadsTo_eq _ text) items

/-- **Items are selected one by one, by what they lead to.**  Every text writes one chain of keys.
What is left of an array are the items from which these keys lead to the text that is asked for, in
order.  Two selections give the same in either order, one made twice gives what it gives once, and
it makes no difference whether repetitions are dropped before or after. -/
theorem hashesFilter_selects (items : List Json) (chain text : String) :
    (∃! keys, Spells chain keys) ∧
    (∀ keys, Spells chain keys → hashesFilter (.arr items) [chain, text] =
      pure (.arr (items.filter fun v => Leads text keys v))) ∧
    (∀ chain' text', hashesFilter (.arr items) [chain, text] >>= (hashesFilter · [chain', text']) =
      hashesFilter (.arr items) [chain', text'] >>= (hashesFilter · [chain, text])) ∧
    hashesFilter (.arr items) [chain, text] >>= (hashesFilter · [chain, text]) =
      hashesFilter (.arr items) [chain, text] ∧
    hashesFilter (.arr items) [chain, text] >>= (uniqArray · []) =
      uniqArray (.arr items) [] >>= (hashesFilter · [chain, text]) := by
  refine ⟨⟨_, spells_iff.mpr rfl, fun _ => spells_iff.mp⟩, fun keys h => ?_,
    fun chain' text' => ?_, ?_, ?_⟩
  · rw [hashesFilter_arr, selected_eq h]
  · simp only [hashesFilter_arr, pure_bind, selected_comm chain text]
  · simp only [hashesFilter_arr, pure_bind, selected_selected]
  · simp only [hashesFilter_arr, uniqArray_arr, pure_bind, selected_dedup]

/-- Who has a role. -/
def member (role : Json) : Json := .obj [("user", .obj [("role", role)])]

/-- Roles: one twice, one in a list of roles, and one of nobody in particular. -/
def staff : List Json :=
  [member (.str "admin"), member (.str "guest"), member (.arr [.str "admin"]), .str "user",
    .obj [("role", .str "admin")], member (.str "admin")]

theorem staff_selects :
    Spells "user*role" ["user", "role"] ∧
    hashesFilter (.arr staff) ["user*role", "admin"] =
      pure (.arr [member (.str "admin"), member (.str "admin")]) ∧
    uniqArray (.arr staff) [] >>= (hashesFilter · ["user*role", "admin"]) =
      pure (.arr [member (.str "admin")]) := by
  obtain ⟨-, hselects, -, -, huniq⟩ := hashesFilter_selects staff "user*role" "admin"
  have hspells : Spells "user*role" ["user", "role"] := spells_iff.mpr (by decide +kernel)
  have hadmins : (staff.filter fun v => Leads "admin" ["user", "role"] v) =
      [member (.str "admin"), member (.str "admin")] := by
    decide +kernel
  have honce : Json.dedup [member (.str "admin"), member (.str "admin")] =
      [member (.str "admin")] := by
    decide +kernel
  have hselected := hselects _ hspells
  rw [hadmins] at hselected
  refine ⟨hspells, hselected, ?_⟩
  rw [← huniq, hselected, pure_bind, uniqArray_arr, honce]

end Reshape.Transform
