/-
# Printed values read back

The printers write JSON texts: `Json.compact` one without blanks, `Json.pretty` one with a line
for every part (`writes_compact`, `writes_prettyAt`).  So what is printed reads back as the value,
for every value that has a text at all that does (`Readable`): whole numbers fit 64 bits, arrays
and objects nest no deeper than they may, no object has two entries of one key, and the shortest
text of each floating-point number is one that the reader, which rounds in steps, takes for this
number.

Main statements: `read_compact` and `read_pretty`.
-/
import Reshape.Proofs.Json.Reading

namespace Reshape.Json

variable {depth : Nat} {v : Json} {es : Entries Json}

/-- A value that can be read, with arrays and objects at most so deep. -/
inductive Readable : Nat → Json → Prop
  | null {depth : Nat} : Readable depth .null
  | bool {depth : Nat} (b : Bool) : Readable depth (.bool b)
  | int {depth : Nat} {n : Int} (hl : -(Nat.pow 2 63 : Nat) ≤ n)
      (hu : n < (Nat.pow 2 64 : Nat)) : Readable depth (.int n)
  | float {depth : Nat} {x : Binary64} (h : Numeral (.float x) (x.text floatLayout).toList) :
      Readable depth (.float x)
  | str {depth : Nat} (s : String) : Readable depth (.str s)
  | arr {depth : Nat} {vs : List Json} (h : ∀ v ∈ vs, Readable depth v) :
      Readable (depth + 1) (.arr vs)
  | obj {depth : Nat} {es : Entries Json} (hd : Entries.Distinct es)
      (h : ∀ e ∈ es, Readable depth e.2) : Readable (depth + 1) (.obj es)

/-! ## 1. Parts with commas between them -/

section

variable {α : Type} {part : α → List Char → Prop} {print : α → List Char} {xs : List α}

/-- Printed parts, each behind the same blanks, with commas between them. -/
def joined (lead : List Char) (print : α → List Char) (xs : List α) : List Char :=
  [','].intercalate (xs.map fun x => lead ++ print x)

theorem joined_cons_cons (lead : List Char) (print : α → List Char) (x y : α) (xs : List α) :
    joined lead print (x :: y :: xs) =
      lead ++ (print x ++ ',' :: joined lead print (y :: xs)) := by
  simp [joined, List.intercalate_cons_cons]

/-- Two parts or more, by induction on the others. -/
theorem more_joined {lead trail : List Char} (hlead : Blank lead) (htrail : Blank trail)
    (h : ∀ x ∈ xs, part x (print x)) (hne : xs ≠ []) :
    More part xs (',' :: (joined lead print xs ++ trail)) := by
  induction xs with
  | nil => exact absurd rfl hne
  | cons x xs ih =>
    obtain ⟨hx, hxs⟩ := List.forall_mem_cons.mp h
    cases xs with
    | nil => simpa [joined] using More.next blank_nil hlead hx (.done htrail)
    | cons y xs =>
      rw [joined_cons_cons]
      simpa using More.next blank_nil hlead hx (ih hxs (by simp))

theorem listed_joined {lead trail : List Char} (hlead : Blank lead) (htrail : Blank trail)
    (h : ∀ x ∈ xs, part x (print x)) : Listed part xs (joined lead print xs ++ trail) := by
  cases xs with
  | nil => simpa [joined] using Listed.none htrail
  | cons x xs =>
    obtain ⟨hx, hxs⟩ := List.forall_mem_cons.mp h
    cases xs with
    | nil => simpa [joined] using Listed.some hlead hx (.done htrail)
    | cons y xs =>
      rw [joined_cons_cons]
      simpa using Listed.some hlead hx (more_joined hlead htrail hxs (by simp))

end

/-! ## 2. Compact text -/

theorem toList_compactItems (vs : List Json) :
    (compactItems vs).toList = joined [] (fun v => (compact v).toList) vs := by
  induction vs with
  | nil => rfl
  | cons v vs ih =>
    cases vs with
    | nil => simp [compactItems, joined]
    | cons w vs => simp [compactItems, joined_cons_cons, ih]

/-- An entry as it is printed: the colon may have blanks behind it. -/
def printedEntry (blanks : List Char) (print : Json → List Char) (e : String × Json) :
    List Char := (quote e.1).toList ++ ':' :: (blanks ++ print e.2)

theorem toList_compactEntries (es : List (String × Json)) :
    (compactEntries es).toList = joined [] (printedEntry [] fun v => (compact v).toList) es := by
  induction es with
  | nil => rfl
  | cons e es ih =>
    cases es with
    | nil => simp [compactEntries, joined, printedEntry]
    | cons f es => simp [compactEntries, joined_cons_cons, printedEntry, ih]

theorem writesEntry_printed {writes : Json → List Char → Prop} (print : Json → List Char)
    {blanks : List Char} (hb : Blank blanks) {e : String × Json} (h : writes e.2 (print e.2)) :
    WritesEntry writes e (printedEntry blanks print e) :=
  WritesEntry.mk (k := e.1) blank_nil hb h

/-- Texts that hold nothing inside stand at every depth. -/
theorem writes_of_writesWith {t : List Char} (h : ∀ inner, WritesWith inner v t) :
    Writes depth v t := by
  cases depth with
  | zero => exact h none
  | succ depth => exact h (some (Writes depth))

theorem writes_arr {vs : List Json} {s : List Char} (h : Listed (Writes depth) vs s) :
    Writes (depth + 1) (.arr vs) ('[' :: (s ++ [']'])) :=
  WritesWith.arr h

theorem writes_obj {s : List Char} (hd : Entries.Distinct es)
    (h : Listed (WritesEntry (Writes depth)) es s) :
    Writes (depth + 1) (.obj es) ('\x7b' :: (s ++ ['\x7d'])) :=
  WritesWith.obj hd h

theorem writes_compact (h : Readable depth v) : Writes depth v (compact v).toList := by
  induction h with
  | null => exact writes_of_writesWith fun _ => .null
  | bool b =>
    cases b with
    | true => exact writes_of_writesWith fun _ => .true
    | false => exact writes_of_writesWith fun _ => .false
  | int hl hu => exact writes_of_writesWith fun _ => .number (numeral_int hl hu)
  | float h => exact writes_of_writesWith fun _ => .number h
  | str s => exact writes_of_writesWith fun _ => .str s
  | @arr depth vs h ih =>
    have hlisted := listed_joined blank_nil blank_nil ih
    rw [← toList_compactItems] at hlisted
    simpa [compact] using writes_arr hlisted
  | @obj depth es hd h ih =>
    have hlisted := listed_joined blank_nil blank_nil fun e he =>
      writesEntry_printed (fun v => (compact v).toList) blank_nil (ih e he)
    rw [← toList_compactEntries] at hlisted
    simpa [compact] using writes_obj hd hlisted

/-! ## 3. Text over several lines -/

theorem blank_newline (level : Nat) : Blank (newline level).toList := by
  have hpushn : ∀ n, Blank ("".pushn ' ' n).toList := by
    intro n
    rw [String.pushn_eq_repeat_push]
    induction n with
    | zero => exact blank_nil
    | succ n ih =>
      intro c hc
      rw [Nat.repeat, String.toList_push, List.mem_append] at hc
      rcases hc with hc | hc
      · exact ih c hc
      · rw [List.mem_singleton.mp hc]
        rfl
  intro c hc
  rw [newline, String.toList_append, List.mem_append] at hc
  rcases hc with hc | hc
  · rw [List.mem_singleton.mp (show c ∈ ['\n'] from hc)]
    rfl
  · exact hpushn _ c hc

theorem toList_prettyItems (level : Nat) (vs : List Json) :
    (prettyItems level vs).toList =
      joined (newline level).toList (fun v => (prettyAt level v).toList) vs := by
  induction vs with
  | nil => rfl
  | cons v vs ih =>
    cases vs with
    | nil => simp [prettyItems, joined]
    | cons w vs => simp [prettyItems, joined_cons_cons, ih]

theorem toList_prettyEntries (level : Nat) (es : List (String × Json)) :
    (prettyEntries level es).toList =
      joined (newline level).toList (printedEntry [' '] fun v => (prettyAt level v).toList) es := by
  induction es with
  | nil => rfl
  | cons e es ih =>
    cases es with
    | nil => simp [prettyEntries, joined, printedEntry]
    | cons f es => simp [prettyEntries, joined_cons_cons, printedEntry, ih]

theorem writes_prettyAt (h : Readable depth v) (level : Nat) :
    Writes depth v (prettyAt level v).toList := by
  induction h generalizing level with
  | null => exact writes_compact .null
  | bool b => exact writes_compact (.bool b)
  | int hl hu => exact writes_compact (.int hl hu)
  | float h => exact writes_compact (.float h)
  | str s => exact writes_compact (.str s)
  | @arr depth vs h ih =>
    cases vs with
    | nil => exact writes_compact (.arr h)
    | cons v vs =>
      have hlisted := listed_joined (blank_newline (level + 1)) (blank_newline level)
        fun v hv => ih v hv (level + 1)
      rw [← toList_prettyItems] at hlisted
      simpa [prettyAt] using writes_arr hlisted
  | @obj depth es hd h ih =>
    cases es with
    | nil => exact writes_compact (.obj hd h)
    | cons e es =>
      have hspace : Blank [' '] := by simp [Blank, isBlankChar]
      have hlisted := listed_joined (blank_newline (level + 1)) (blank_newline level)
        fun e he => writesEntry_printed (fun v => (prettyAt (level + 1) v).toList) hspace
          (ih e he (level + 1))
      rw [← toList_prettyEntries] at hlisted
      simpa [prettyAt] using writes_obj hd hlisted

/-! ## 4. Reading back -/

/-- **The compact text of a value reads back as the value.** -/
theorem read_compact (h : Readable maxDepth v) : read (compact v) = .ok v := by
  simpa using read_of_writes (writes_compact h) blank_nil blank_nil

/-- **The text over several lines reads back as well.** -/
theorem read_pretty (h : Readable maxDepth v) : read (pretty v) = .ok v := by
  simpa [pretty] using read_of_writes (writes_prettyAt h 0) blank_nil blank_nil

end Reshape.Json
