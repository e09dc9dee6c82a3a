/-
# The case of input keys

An engine reads an input with its keys in lower case, so the case of the keys of an input is
of no account: an input, the input in lower case and every input that differs from it only in
the case of keys have the same run, notices included.

Main statement: `apply_normalizeKeys`, with what `normalizeKeys` does where keys collide.
-/
import Reshape.Engine
import Reshape.Proofs.Json.Keys

namespace Reshape.Engine

/-- **The keys of an input may be written in any case.**  In lower case an object has the keys of
the source in lower case, each in the place of its first occurrence and with the value of its
last one, at every depth (`Json.LowerCases`); doing so once is enough.  An input has the same
run as its lower case, and as every input that differs from it in the case of keys only. -/
theorem apply_normalizeKeys :
    (∀ v w : Json, v.LowerCases w ↔ w = v.normalizeKeys) ∧
    (∀ v : Json, v.normalizeKeys.normalizeKeys = v.normalizeKeys) ∧
    (∀ (e : Engine) (input : Json), e.apply input.normalizeKeys = e.apply input) ∧
    ∀ (e : Engine) (input input' : Json), input.CaseVariant input' →
      e.apply input = e.apply input' := by
  refine ⟨fun _ _ => Json.lowerCases_iff, Json.normalizeKeys_normalizeKeys, ?_, ?_⟩
  · intro e input
    rw [apply, Json.normalizeKeys_normalizeKeys]
    rfl
  · intro e input input' h
    rw [apply, h.normalizeKeys_eq]
    rfl

/-- An engine for the id of a user. -/
def idEngine : Engine :=
  ⟨⟨[], ⟨[]⟩, [.value ⟨"id", none, none, [], none, false⟩ (some (.ofString "user/id"))]⟩, ⟨[]⟩,
    registry {}⟩

/-- Two users under keys that collide. -/
def usersUnder (first second id : String) : Json :=
  .obj [(first, .obj [(id, .int 1)]), (second, .obj [(id, .int 2)])]

theorem usersUnder_variant :
    (usersUnder "User" "USER" "ID").CaseVariant (usersUnder "uSER" "user" "Id") ∧
    (idEngine.apply (usersUnder "User" "USER" "ID")).result = .ok (.obj [("id", .int 2)]) ∧
    idEngine.apply (usersUnder "User" "USER" "ID") =
      idEngine.apply (usersUnder "uSER" "user" "Id") := by
  have hid : Text.lowercase "ID" = Text.lowercase "Id" := by decide +kernel
  have huser : ∀ n, (Json.obj [("ID", .int n)]).CaseVariant (.obj [("Id", .int n)]) := fun n =>
    .obj (congrArg (fun k => [k]) hid) (.cons (.int n) .nil)
  have hvariant : (usersUnder "User" "USER" "ID").CaseVariant (usersUnder "uSER" "user" "Id") :=
    .obj (by decide +kernel) (.cons (huser 1) (.cons (huser 2) .nil))
  obtain ⟨-, -, -, hsame⟩ := apply_normalizeKeys
  exact ⟨hvariant, by decide +kernel, hsame idEngine _ _ hvariant⟩

end Reshape.Engine
