/-
# Reading what is written

`Writes depth v s` says that the characters `s` are a JSON text of a value: arrays and objects
nest at most `depth` deep in it, there may be blanks around every part, texts and keys are
quoted as `Json.quote` does, and a number stands as a text that is a `Numeral` of it.  The relation
goes level by level (`WritesWith`), as the reader does.

Every such text is read as the value that it writes.  A reader is shown to take exactly the text
in front of whatever may follow it (`Takes`): one lemma for each part of a text, one for the
loop over the parts of an array or an object, and an induction on the depth.

Main statement: `read_of_writes`.
-/
import Reshape.Json.Printer
import Reshape.Json.Reader
import Reshape.Proofs.Written

namespace Reshape.Json

/-! ## 1. Blanks -/

variable {b s t r : List Char} {v : Json}

def Blank (b : List Char) : Prop := ∀ c ∈ b, isBlankChar c = true

theorem blank_nil : Blank [] := by simp [Blank]

theorem skipBlanks_append (h : Blank b) (s : List Char) : skipBlanks (b ++ s) = skipBlanks s :=
  List.dropWhile_append_of_pos h

theorem skipBlanks_blank (h : Blank b) : skipBlanks b = [] := by
  simpa [skipBlanks] using skipBlanks_append h []

theorem skipBlanks_cons {c : Char} (h : isBlankChar c = false) (s : List Char) :
    skipBlanks (c :: s) = c :: s := by
  simp [skipBlanks, h]

/-- What may follow a number: nothing that would go on with it. -/
def Ends (r : List Char) : Prop :=
  ∀ c ∈ r.head?, c.isDigit = false ∧ c ≠ '.' ∧ c ≠ 'e' ∧ c ≠ 'E'

theorem ends_nil : Ends [] := by simp [Ends]

theorem ends_cons {c : Char} (hd : c.isDigit = false) (h : c ≠ '.' ∧ c ≠ 'e' ∧ c ≠ 'E')
    (r : List Char) : Ends (c :: r) := by
  simp [Ends, hd, h]

theorem ends_blank_append (hb : Blank b) (hr : Ends r) : Ends (b ++ r) := by
  cases b with
  | nil => exact hr
  | cons c b =>
    have hc := hb c (by simp)
    simp only [isBlankChar, Bool.or_eq_true, decide_eq_true_eq] at hc
    obtain ((rfl | rfl) | rfl) | rfl := hc <;> exact ends_cons (by decide) (by decide) _

/-! ## 2. Numbers -/

theorem Ends.takeWhile_isDigit (h : Ends r) (s : List Char) :
    (s ++ r).takeWhile Char.isDigit = s.takeWhile Char.isDigit := by
  induction s with
  | nil =>
    cases r with
    | nil => rfl
    | cons c r => simp [(h c rfl).1]
  | cons c s ih => cases hc : c.isDigit <;> simp [hc, ih]

theorem Ends.dropWhile_isDigit (h : Ends r) (s : List Char) :
    (s ++ r).dropWhile Char.isDigit = s.dropWhile Char.isDigit ++ r := by
  induction s with
  | nil =>
    cases r with
    | nil => rfl
    | cons c r => simp [(h c rfl).1]
  | cons c s ih => cases hc : c.isDigit <;> simp [hc, ih]

theorem Ends.exponentDigits (h : Ends r) (n : Nat) (s : List Char) :
    exponentDigits n (s ++ r) = ((exponentDigits n s).1, (exponentDigits n s).2 ++ r) := by
  induction s generalizing n with
  | nil =>
    cases r with
    | nil => rfl
    | cons c r => simp [Json.exponentDigits, (h c rfl).1]
  | cons c s ih =>
    simp only [List.cons_append, Json.exponentDigits]
    split
    · split
      · rfl
      · exact ih _
    · rfl

theorem Ends.takeDigits (h : Ends r) (n : Nat) (s : List Char) :
    takeDigits n (s ++ r) =
      ((takeDigits n s).1, (takeDigits n s).2.1, (takeDigits n s).2.2 ++ r) := by
  induction s generalizing n with
  | nil =>
    cases r with
    | nil => rfl
    | cons c r => simp [Json.takeDigits, (h c rfl).1]
  | cons c s ih =>
    simp only [List.cons_append, Json.takeDigits]
    split
    · rw [ih]
    · rfl

/-- A reader of numbers that has read one reads the same in front of anything that ends it. -/
def Local (read : Reader Json) : Prop :=
  ∀ ⦃s v t⦄, read s = .ok (v, t) → ∀ r, Ends r → read (s ++ r) = .ok (v, t ++ r)

theorem local_floatOf (negative : Bool) (significand : Nat) (scale : Int) :
    Local (floatOf negative significand scale) := by
  intro s v t h r hr
  rw [floatOf] at h ⊢
  cases hx : Binary64.ofParts? negative significand scale with
  | none =>
    rw [hx] at h
    cases h
  | some x =>
    rw [hx] at h
    cases h
    rfl

theorem local_exponent (negative : Bool) (significand : Nat) (scale : Int) (down : Bool) :
    Local (exponent negative significand scale down) := by
  intro s v t h r hr
  cases s with
  | nil => cases h
  | cons c s =>
    simp only [exponent, List.cons_append] at h ⊢
    rw [← List.cons_append, hr.exponentDigits]
    cases hc : c.isDigit with
    | false => simp [hc, stopAt] at h
    | true =>
      simp only [hc, Bool.not_true, Bool.false_eq_true, if_false] at h ⊢
      generalize exponentDigits 0 (c :: s) = taken at h ⊢
      obtain ⟨e, s'⟩ := taken
      cases e with
      | some e => exact local_floatOf _ _ _ h r hr
      | none =>
        dsimp only at h ⊢
        split at h
        · cases h
        · next hout =>
          cases h
          rw [if_neg hout, hr.dropWhile_isDigit]

theorem local_exponentPart (negative : Bool) (significand : Nat) (scale : Int) :
    Local (exponentPart negative significand scale) := by
  intro s v t h r hr
  cases s with
  | nil => cases h
  | cons c s =>
    by_cases hplus : c = '+'
    · subst hplus
      exact local_exponent _ _ _ _ h r hr
    · by_cases hminus : c = '-'
      · subst hminus
        exact local_exponent _ _ _ _ h r hr
      · have hsign (s : List Char) : exponentPart negative significand scale (c :: s) =
            exponent negative significand scale false (c :: s) := by
          simp [exponentPart, hplus, hminus]
        rw [hsign] at h
        rw [List.cons_append, hsign, ← List.cons_append]
        exact local_exponent _ _ _ _ h r hr

theorem local_afterDigits {plain : Reader Json} (hplain : Local plain) (negative : Bool)
    (significand : Nat) (scale : Int) : Local (afterDigits plain negative significand scale) := by
  intro s v t h r hr
  have hend (s : List Char) (hs : ∀ c ∈ s.head?, c ≠ 'e' ∧ c ≠ 'E') :
      afterDigits plain negative significand scale s = plain s := by
    cases s with
    | nil => rfl
    | cons c s =>
      obtain ⟨he, hE⟩ := hs c rfl
      simp [afterDigits, he, hE]
  cases s with
  | nil =>
    rw [hend [] (by simp)] at h
    rw [List.nil_append, hend r fun c hc => (hr c hc).2.2]
    exact hplain h r hr
  | cons c s =>
    by_cases he : c = 'e'
    · subst he
      exact local_exponentPart _ _ _ h r hr
    · by_cases hE : c = 'E'
      · subst hE
        exact local_exponentPart _ _ _ h r hr
      · rw [hend _ (by simp [he, hE])] at h
        rw [hend _ (by simp [he, hE])]
        exact hplain h r hr

theorem local_fractionPart (negative : Bool) (significand : Nat) (scale : Int) :
    Local (fractionPart negative significand scale) := by
  intro s v t h r hr
  cases s with
  | nil => cases h
  | cons c s =>
    simp only [fractionPart, List.cons_append] at h ⊢
    rw [← List.cons_append, hr.takeDigits, hr.dropWhile_isDigit]
    cases hc : c.isDigit with
    | false => simp [hc, stopAt] at h
    | true =>
      simp only [hc, Bool.not_true, Bool.false_eq_true, if_false] at h ⊢
      exact local_afterDigits (local_floatOf _ _ _) _ _ _ h r hr

theorem local_wholeNumber (negative : Bool) (significand : Nat) (scale : Int) :
    Local (wholeNumber negative significand scale) := by
  intro s v t h r hr
  unfold wholeNumber at h ⊢
  split
  · next hw =>
    rw [if_pos hw] at h
    cases h
    rfl
  · next hw =>
    rw [if_neg hw] at h
    split
    · next hn =>
      rw [if_pos hn] at h
      cases h
      rfl
    · next hn =>
      rw [if_neg hn] at h
      exact local_floatOf _ _ _ h r hr

theorem local_afterWhole (negative : Bool) (significand : Nat) (scale : Int) :
    Local (afterWhole negative significand scale) := by
  intro s v t h r hr
  have hend (s : List Char) (hs : ∀ c ∈ s.head?, c ≠ '.') :
      afterWhole negative significand scale s =
        afterDigits (wholeNumber negative significand scale) negative significand scale s := by
    cases s with
    | nil => rfl
    | cons c s => simp [afterWhole, hs c rfl]
  have hlocal := local_afterDigits (local_wholeNumber negative significand scale) negative
    significand scale
  cases s with
  | nil =>
    rw [hend [] (by simp)] at h
    rw [List.nil_append, hend r fun c hc => (hr c hc).2.1]
    exact hlocal h r hr
  | cons c s =>
    by_cases hpoint : c = '.'
    · subst hpoint
      exact local_fractionPart _ _ _ h r hr
    · rw [hend _ (by simp [hpoint])] at h
      rw [hend _ (by simp [hpoint])]
      exact hlocal h r hr

theorem local_number (negative : Bool) : Local (number negative) := by
  intro s v t h r hr
  cases s with
  | nil => cases h
  | cons c s =>
    simp only [number, List.cons_append] at h ⊢
    rw [← List.cons_append, hr.takeDigits, hr.takeWhile_isDigit, hr.dropWhile_isDigit]
    cases hc : c.isDigit with
    | false => simp [hc, stopAt] at h
    | true =>
      have hzero : ((s ++ r).head?.any Char.isDigit) = s.head?.any Char.isDigit := by
        cases s with
        | cons d s => rfl
        | nil =>
          cases r with
          | nil => rfl
          | cons d r => simp [(hr d rfl).1]
      simp only [hc, hzero, Bool.not_true, Bool.false_eq_true, if_false] at h ⊢
      split at h
      · cases h
      · next halone =>
        rw [if_neg halone]
        exact local_afterWhole _ _ _ h r hr

/-- A text of a number: behind its sign, it is read to its end. -/
def Numeral (v : Json) (t : List Char) : Prop :=
  ∃ negative s, t = (if negative then '-' :: s else s) ∧ number negative s = .ok (v, [])

theorem takeDigits_of_isDigit {ds : List Char} (hd : ∀ c ∈ ds, c.isDigit = true) {n : Nat}
    (h : Nat.ofDigitChars 10 ds n < Nat.pow 2 64) :
    Json.takeDigits n ds = (Nat.ofDigitChars 10 ds n, ds.length, []) := by
  induction ds generalizing n with
  | nil => rfl
  | cons c ds ih =>
    obtain ⟨hc, hds⟩ := List.forall_mem_cons.mp hd
    rw [Nat.ofDigitChars_cons] at h ⊢
    have hgrown : 10 * n + (c.toNat - '0'.toNat) < Nat.pow 2 64 := by
      refine Nat.lt_of_le_of_lt ?_ h
      rw [Nat.ofDigitChars_eq_ofDigitChars_zero]
      exact Nat.le_add_right_of_le (Nat.le_mul_of_pos_left _ (Nat.pow_pos (by decide)))
    rw [Json.takeDigits, if_pos (Bool.and_eq_true_iff.mpr ⟨hc, decide_eq_true hgrown⟩), ih hds h]
    rfl

/-- The digits of a number begin with a zero only where that is all. -/
theorem eq_nil_of_toDigits {n : Nat} {ds : List Char} (h : Nat.toDigits 10 n = '0' :: ds) :
    ds = [] := by
  induction n using Nat.strongRecOn generalizing ds with
  | ind n ih =>
    rcases Nat.lt_or_ge n 10 with hn | hn
    · rw [Nat.toDigits_of_lt_base hn] at h
      exact (List.cons.inj h).2.symm
    · rw [Nat.toDigits_of_base_le (by decide) hn] at h
      cases hq : Nat.toDigits 10 (n / 10) with
      | nil => exact absurd hq Nat.toDigits_ne_nil
      | cons c qs =>
        rw [hq] at h
        obtain ⟨rfl, -⟩ := List.cons.inj h
        -- the digits of the quotient begin with the zero, so the quotient is zero
        have hqs : qs = [] := ih (n / 10) (by omega) hq
        have hzero : n / 10 = 0 := by
          rw [← Nat.ofDigitChars_ten_toDigits (n := n / 10), hq, hqs]
          rfl
        omega

theorem number_toDigits (negative : Bool) {m : Nat} (hm : m < Nat.pow 2 64) :
    number negative (Nat.toDigits 10 m) = wholeNumber negative m 0 [] := by
  have hdigits : ∀ c ∈ Nat.toDigits 10 m, c.isDigit = true := fun c hc =>
    Nat.isDigit_of_mem_toDigits (by decide) (by decide) hc
  have htaken := takeDigits_of_isDigit hdigits (n := 0) (by rwa [Nat.ofDigitChars_ten_toDigits])
  rw [Nat.ofDigitChars_ten_toDigits] at htaken
  cases hs : Nat.toDigits 10 m with
  | nil => exact absurd hs Nat.toDigits_ne_nil
  | cons c ds =>
    rw [hs] at hdigits htaken
    have halone : ¬(c = '0' && ds.head?.any Char.isDigit) = true := by
      intro h
      obtain ⟨hc, hany⟩ := Bool.and_eq_true_iff.mp h
      rw [of_decide_eq_true hc] at hs
      rw [eq_nil_of_toDigits hs] at hany
      cases hany
    simp only [number, htaken, hdigits c (by simp), if_neg halone]
    rfl

theorem numeral_int {n : Int} (hl : -(Nat.pow 2 63 : Nat) ≤ n) (hu : n < (Nat.pow 2 64 : Nat)) :
    Numeral (.int n) (toString n).toList := by
  cases n with
  | ofNat m =>
    refine ⟨false, Nat.toDigits 10 m, ?_, ?_⟩
    · show m.repr.toList = _
      simp [Nat.repr_eq_ofList_toDigits]
    · rw [number_toDigits false (Int.ofNat_lt.mp hu)]
      rfl
  | negSucc m =>
    refine ⟨true, Nat.toDigits 10 (m + 1), ?_, ?_⟩
    · show ("-" ++ (m + 1).repr).toList = _
      simp [Nat.repr_eq_ofList_toDigits]
    · have hm : m + 1 ≤ Nat.pow 2 63 := by omega
      have hfits : (decide ((0 : Int) = 0) && decide (0 < m + 1) &&
          decide (m + 1 ≤ Nat.pow 2 63)) = true :=
        Bool.and_eq_true_iff.mpr ⟨by simp, decide_eq_true hm⟩
      rw [number_toDigits true (Nat.lt_of_le_of_lt hm (by decide)), wholeNumber,
        if_neg (by simp), if_pos hfits]
      rfl

/-! ## 3. Texts -/

theorem fourHex_control : ∀ a < 2, ∀ b < 16, Text.byteCount ['0', '0', hexDigit a, hexDigit b] = 4 ∧
    Text.number? 16 ['0', '0', hexDigit a, hexDigit b] = some (16 * a + b) := by
  decide

/-- The escape of a control character is the one of its number. -/
theorem escape_control {c : Char} (h : c.toNat < 0x20) (s : List Char) :
    escape ('u' :: '0' :: '0' :: hexDigit (c.toNat / 16) :: hexDigit (c.toNat % 16) :: s) =
      .ok (c, s) := by
  obtain ⟨hcount, hnumber⟩ := fourHex_control (c.toNat / 16) (by omega) (c.toNat % 16) (by omega)
  have hn : 16 * (c.toNat / 16) + c.toNat % 16 = c.toNat := Nat.div_add_mod _ _
  have hfour : fourHex ('0' :: '0' :: hexDigit (c.toNat / 16) :: hexDigit (c.toNat % 16) :: s) =
      .ok (c.toNat, s) := by
    simp only [fourHex, List.take_succ_cons, List.take_zero, List.drop_succ_cons, List.drop_zero,
      hcount, hnumber, hn, Nat.lt_irrefl, if_false]
  show unicodeEscape _ = _
  rw [unicodeEscape, hfour]
  simp [bind, Except.bind, pure, Except.pure, show ¬0xDC00 ≤ c.toNat by omega,
    show c.toNat < 0xD800 by omega]

theorem textBody_escapeChar (fuel : Nat) (done : List Char) (c : Char) (s : List Char) :
    textBody (fuel + 1) done (escapeChar c ++ s) = textBody fuel (c :: done) s := by
  unfold escapeChar
  split
  · next h => subst h; rfl
  split
  · next h => subst h; rfl
  split
  · next h => subst h; rfl
  split
  · next h => subst h; rfl
  split
  · next h => subst h; rfl
  split
  · next h => subst h; rfl
  split
  · next h => subst h; rfl
  split
  · next h =>
    simp only [List.cons_append, List.nil_append, textBody, escape_control h]
    rfl
  · next hquote hslash _ _ _ _ _ hcontrol =>
    simp only [List.cons_append, List.nil_append, textBody, if_neg hquote, if_neg hslash,
      if_neg hcontrol]

theorem textBody_flatMap {cs : List Char} {fuel : Nat} (h : cs.length < fuel) (done r : List Char) :
    textBody fuel done (cs.flatMap escapeChar ++ '"' :: r) =
      .ok (String.ofList (done.reverse ++ cs), r) := by
  induction cs generalizing fuel done with
  | nil =>
    obtain ⟨fuel, rfl⟩ := Nat.exists_eq_add_of_lt h
    simp [textBody]
  | cons c cs ih =>
    cases fuel with
    | zero => cases h
    | succ fuel =>
      rw [List.flatMap_cons, List.append_assoc, textBody_escapeChar,
        ih (Nat.lt_of_succ_lt_succ h)]
      simp

theorem toList_quote (s : String) :
    (quote s).toList = '"' :: (s.toList.flatMap escapeChar ++ ['"']) := by
  simp [quote]

theorem length_lt_quote (s : String) : s.toList.length < (quote s).toList.length := by
  have hle : ∀ cs : List Char, cs.length ≤ (cs.flatMap escapeChar).length := by
    intro cs
    induction cs with
    | nil => simp
    | cons c cs ih =>
      have hc : 1 ≤ (escapeChar c).length := by fun_cases escapeChar c <;> simp
      rw [List.flatMap_cons, List.length_append, List.length_cons]
      omega
  have := hle s.toList
  rw [toList_quote, List.length_cons, List.length_append]
  omega

theorem text_quote {s : String} {limit : Nat} (h : (quote s).toList.length < limit)
    (r : List Char) : text limit (s.toList.flatMap escapeChar ++ '"' :: r) = .ok (s, r) := by
  rw [text, textBody_flatMap (Nat.lt_trans (length_lt_quote s) h)]
  simp

/-! ## 4. Texts of values -/

section

variable {α : Type}

/-- Parts behind the first one, each behind a comma, and the blanks behind the last. -/
inductive More (part : α → List Char → Prop) : List α → List Char → Prop
  | done {b : List Char} (hb : Blank b) : More part [] b
  | next {b b' t s : List Char} {x : α} {xs : List α} (hb : Blank b) (hb' : Blank b')
      (hx : part x t) (hs : More part xs s) : More part (x :: xs) (b ++ ',' :: (b' ++ (t ++ s)))

/-- Parts with commas between them and blanks around them. -/
inductive Listed (part : α → List Char → Prop) : List α → List Char → Prop
  | none {b : List Char} (hb : Blank b) : Listed part [] b
  | some {b t s : List Char} {x : α} {xs : List α} (hb : Blank b) (hx : part x t)
      (hs : More part xs s) : Listed part (x :: xs) (b ++ (t ++ s))

end

/-- An entry: its key between quotes, a colon, and a text of its value. -/
inductive WritesEntry (value : Json → List Char → Prop) : String × Json → List Char → Prop
  | mk {k : String} {v : Json} {b b' t : List Char} (hb : Blank b) (hb' : Blank b')
      (hv : value v t) : WritesEntry value (k, v) ((quote k).toList ++ (b ++ ':' :: (b' ++ t)))

/-- A text of a value, given the texts of what is inside; without them it is no array and no
object. -/
inductive WritesWith : Option (Json → List Char → Prop) → Json → List Char → Prop
  | null {inner} : WritesWith inner .null ['n', 'u', 'l', 'l']
  | true {inner} : WritesWith inner (.bool true) ['t', 'r', 'u', 'e']
  | false {inner} : WritesWith inner (.bool false) ['f', 'a', 'l', 's', 'e']
  | number {inner} {v : Json} {t : List Char} (h : Numeral v t) : WritesWith inner v t
  | str {inner} (s : String) : WritesWith inner (.str s) (quote s).toList
  | arr {inner} {vs : List Json} {s : List Char} (h : Listed inner vs s) :
      WritesWith (some inner) (.arr vs) ('[' :: (s ++ [']']))
  | obj {inner} {es : Entries Json} {s : List Char} (hd : Entries.Distinct es)
      (h : Listed (WritesEntry inner) es s) :
      WritesWith (some inner) (.obj es) ('\x7b' :: (s ++ ['\x7d']))

/-- A text of a value in which arrays and objects nest at most so deep. -/
def Writes : Nat → Json → List Char → Prop
  | 0 => WritesWith none
  | depth + 1 => WritesWith (some (Writes depth))

/-! ## 5. Reading -/

theorem Bracket.close_ne_comma (k : Bracket) : k.close ≠ ',' := by cases k <;> decide

theorem Bracket.isBlankChar_close (k : Bracket) : isBlankChar k.close = false := by
  cases k <;> rfl

theorem Bracket.ends_close (k : Bracket) (r : List Char) : Ends (k.close :: r) := by
  cases k <;> exact ends_cons (by decide) (by decide) r

section

variable {α : Type} {part : α → List Char → Prop} {read : Reader α} {limit : Nat}

/-- A reader takes every text of fewer than `limit` characters, in front of whatever may follow
a number, and answers what it writes. -/
def Takes (part : α → List Char → Prop) (limit : Nat) (read : Reader α) : Prop :=
  ∀ ⦃x t⦄, part x t → t.length < limit → ∀ r, Ends r → read (t ++ r) = .ok (x, r)

/-- Every text of a part begins with a character that is no blank and does not close. -/
def Opens (part : α → List Char → Prop) : Prop :=
  ∀ ⦃x t⦄, part x t → ∃ c s, t = c :: s ∧ isBlankChar c = false ∧ ∀ k : Bracket, c ≠ k.close

theorem More.ends {xs : List α} (h : More part xs s) (k : Bracket) (r : List Char) :
    Ends (s ++ k.close :: r) := by
  cases h with
  | done hb => exact ends_blank_append hb (k.ends_close r)
  | next hb _ _ _ =>
    rw [List.append_assoc]
    exact ends_blank_append hb (ends_cons (by decide) (by decide) _)

theorem More.length_le {xs : List α} (h : More part xs s) : xs.length ≤ s.length := by
  induction h with
  | done hb => simp
  | next hb hb' hx hs ih =>
    simp only [List.length_append, List.length_cons]
    omega

theorem toPart_of_opens {k : Bracket} (hopens : Opens part) {x : α} (hx : part x t)
    (hb : Blank b) (first : Bool) (r : List Char) :
    toPart k first (if first then t ++ r else ',' :: (b ++ (t ++ r))) = .ok (t ++ r) := by
  obtain ⟨c, s, rfl, hc, hclose⟩ := hopens hx
  cases first with
  | true => rfl
  | false => simp [toPart, skipBlanks_append hb, skipBlanks_cons hc, hclose k]

/-- By induction on the parts that are left: each round takes one of them. -/
theorem parts_of_more (k : Bracket) (hopens : Opens part) (htakes : Takes part limit read)
    {xs : List α} (h : More part xs s) (hlimit : s.length < limit) {fuel : Nat}
    (hfuel : xs.length < fuel) {done : List α} (hdone : done ≠ []) (r : List Char) :
    parts k read fuel done (s ++ k.close :: r) = .ok (done.reverse ++ xs, r) := by
  induction h generalizing fuel done with
  | done hb =>
    cases fuel with
    | zero => cases hfuel
    | succ fuel => simp [parts, skipBlanks_append hb, skipBlanks_cons k.isBlankChar_close]
  | @next b b' t s x xs hb hb' hx hs ih =>
    cases fuel with
    | zero => cases hfuel
    | succ fuel =>
      simp only [List.length_append, List.length_cons] at hlimit hfuel
      have hfirst : done.isEmpty = false := by simpa using hdone
      have hto := toPart_of_opens (k := k) hopens hx hb' false (s ++ k.close :: r)
      have hread := htakes hx (by omega) _ (hs.ends k r)
      have hskip : skipBlanks (b ++ ',' :: (b' ++ (t ++ (s ++ k.close :: r)))) =
          ',' :: (b' ++ (t ++ (s ++ k.close :: r))) := by
        rw [skipBlanks_append hb, skipBlanks_cons rfl]
      simp only [parts, List.append_assoc, List.cons_append, hskip, hfirst,
        if_neg k.close_ne_comma.symm]
      simp only [Bool.false_eq_true, if_false] at hto
      rw [hto]
      simp only [bind, Except.bind, hread]
      rw [ih (by omega) (by omega) (by simp)]
      simp

theorem parts_of_listed (k : Bracket) (hopens : Opens part) (htakes : Takes part limit read)
    {xs : List α} (h : Listed part xs s) (hlimit : s.length < limit) (r : List Char) :
    parts k read limit [] (s ++ k.close :: r) = .ok (xs, r) := by
  obtain ⟨fuel, rfl⟩ := Nat.exists_eq_succ_of_ne_zero (Nat.ne_zero_of_lt hlimit)
  cases h with
  | none hb => simp [parts, skipBlanks_append hb, skipBlanks_cons k.isBlankChar_close]
  | @some b t s x xs hb hx hs =>
    simp only [List.length_append] at hlimit
    have hread := htakes hx (by omega) _ (hs.ends k r)
    obtain ⟨c, t, rfl, hc, hclose⟩ := hopens hx
    have hto : toPart k ([] : List α).isEmpty (c :: (t ++ (s ++ k.close :: r))) =
        .ok (c :: (t ++ (s ++ k.close :: r))) := rfl
    simp only [parts, List.append_assoc, List.cons_append, skipBlanks_append hb,
      skipBlanks_cons hc, if_neg (hclose k), hto]
    simp only [bind, Except.bind]
    rw [← List.cons_append, hread]
    have hlength := hs.length_le
    simp only [List.length_cons] at hlimit
    exact parts_of_more k hopens htakes hs (by omega) (by omega) (by simp) r

end

/-- What a level of a text asks of the level inside, and of its reader. -/
structure Fits (writes : Json → List Char → Prop) (limit : Nat) (read : Reader Json) : Prop where
  takes : Takes writes limit read
  opens : Opens writes
  skips : ∀ b s, Blank b → read (b ++ s) = read s

section

variable {writes : Json → List Char → Prop} {limit : Nat} {item : Reader Json}

theorem opens_entry : Opens (WritesEntry writes) := by
  rintro _ _ ⟨hb, hb', hv⟩
  rw [toList_quote]
  exact ⟨'"', _, rfl, rfl, fun k => by cases k <;> decide⟩

theorem Fits.takes_entry (h : Fits writes limit item) :
    Takes (WritesEntry writes) limit (entry limit item) := by
  rintro _ _ ⟨hb, hb', hv⟩ hlimit r hr
  next k v b b' t =>
    simp only [List.length_append, List.length_cons] at hlimit
    have htext := text_quote (show (quote k).toList.length < limit by omega)
      (b ++ ':' :: (b' ++ (t ++ r)))
    have hvalue := h.takes hv (by omega) r hr
    have hcolon : skipBlanks (b ++ ':' :: (b' ++ (t ++ r))) = ':' :: (b' ++ (t ++ r)) := by
      rw [skipBlanks_append hb, skipBlanks_cons rfl]
    simp only [entry, toList_quote, List.cons_append, List.append_assoc, List.nil_append, htext,
      bind, Except.bind, hcolon, h.skips _ _ hb', hvalue]
    rfl

theorem Fits.takes_items (h : Fits writes limit item) {vs : List Json}
    (hs : Listed writes vs s) (hlimit : s.length < limit) (r : List Char) :
    items limit item (s ++ ']' :: r) = .ok (.arr vs, r) := by
  have hparts := parts_of_listed .list h.opens h.takes hs hlimit r
  simp only [Bracket.close] at hparts
  rw [items, hparts]
  rfl

theorem Fits.takes_entries (h : Fits writes limit item) {es : Entries Json}
    (hd : Entries.Distinct es) (hs : Listed (WritesEntry writes) es s) (hlimit : s.length < limit)
    (r : List Char) : entries limit item (s ++ '\x7d' :: r) = .ok (.obj es, r) := by
  have hparts := parts_of_listed .object opens_entry h.takes_entry hs hlimit r
  simp only [Bracket.close] at hparts
  rw [entries, hparts]
  simp [Except.map, Entries.ofList_of_distinct hd]

theorem ne_of_isDigit {c d : Char} (hc : c.isDigit = true) (hd : d.isDigit = false) : c ≠ d := by
  rintro rfl
  rw [hc] at hd
  cases hd

theorem isBlankChar_of_isDigit {c : Char} (h : c.isDigit = true) : isBlankChar c = false := by
  simp [isBlankChar, ne_of_isDigit h (d := ' ') rfl, ne_of_isDigit h (d := '\n') rfl,
    ne_of_isDigit h (d := '\t') rfl, ne_of_isDigit h (d := '\r') rfl]

/-- A numeral begins with its sign or with a digit. -/
theorem Numeral.exists_cons (h : Numeral v t) :
    (∃ s, t = '-' :: s ∧ number true s = .ok (v, [])) ∨
      ∃ c s, t = c :: s ∧ c.isDigit = true ∧ number false (c :: s) = .ok (v, []) := by
  obtain ⟨negative, s, rfl, h⟩ := h
  cases negative with
  | true => exact .inl ⟨s, rfl, h⟩
  | false =>
    cases s with
    | nil => cases h
    | cons c s =>
      cases hc : c.isDigit with
      | false => simp [number, hc, stopAt] at h
      | true => exact .inr ⟨c, s, rfl, hc, h⟩

theorem valueWith_blank_append {reader : Option (Reader Json)} (hb : Blank b) (s : List Char) :
    valueWith limit reader (b ++ s) = valueWith limit reader s := by
  simp only [valueWith, skipBlanks_append hb]

theorem valueWith_of_isDigit {reader : Option (Reader Json)} {c : Char} (h : c.isDigit = true)
    (s : List Char) : valueWith limit reader (c :: s) = number false (c :: s) := by
  have hne {d : Char} (hd : d.isDigit = false) : c ≠ d := ne_of_isDigit h hd
  rw [valueWith, skipBlanks_cons (isBlankChar_of_isDigit h)]
  simp [h, hne (d := 'n') rfl, hne (d := 't') rfl, hne (d := 'f') rfl, hne (d := '-') rfl,
    hne (d := '"') rfl, hne (d := '[') rfl, hne (d := '\x7b') rfl]

theorem valueWith_quote {reader : Option (Reader Json)} (s : List Char) :
    valueWith limit reader ('"' :: s) = (text limit s).map fun (t, s) => (.str t, s) := rfl

theorem valueWith_list (s : List Char) :
    valueWith limit (some item) ('[' :: s) = items limit item s := rfl

theorem valueWith_object (s : List Char) :
    valueWith limit (some item) ('\x7b' :: s) = entries limit item s := rfl

theorem opens_writesWith (inner : Option (Json → List Char → Prop)) : Opens (WritesWith inner) := by
  intro v t h
  cases h with
  | null => exact ⟨_, _, rfl, rfl, fun k => by cases k <;> decide⟩
  | true => exact ⟨_, _, rfl, rfl, fun k => by cases k <;> decide⟩
  | false => exact ⟨_, _, rfl, rfl, fun k => by cases k <;> decide⟩
  | number h =>
    obtain ⟨s, rfl, -⟩ | ⟨c, s, rfl, hc, -⟩ := h.exists_cons
    · exact ⟨_, _, rfl, rfl, fun k => by cases k <;> decide⟩
    · exact ⟨_, _, rfl, isBlankChar_of_isDigit hc,
        fun k => ne_of_isDigit hc (by cases k <;> rfl)⟩
  | str s =>
    rw [toList_quote]
    exact ⟨_, _, rfl, rfl, fun k => by cases k <;> decide⟩
  | arr h => exact ⟨_, _, rfl, rfl, fun k => by cases k <;> decide⟩
  | obj hd h => exact ⟨_, _, rfl, rfl, fun k => by cases k <;> decide⟩

/-- One level of a text is read if the level inside is. -/
theorem fits_writesWith {inner : Option (Json → List Char → Prop)}
    {reader : Option (Reader Json)} (h : Option.Rel (Fits · limit ·) inner reader) :
    Fits (WritesWith inner) limit (valueWith limit reader) := by
  refine ⟨?_, opens_writesWith inner, fun b s hb => valueWith_blank_append hb s⟩
  intro v t hv hlimit r hr
  cases hv with
  | null => rfl
  | true => rfl
  | false => rfl
  | number hn =>
    obtain ⟨s, rfl, hs⟩ | ⟨c, s, rfl, hc, hs⟩ := hn.exists_cons
    · exact local_number true hs r hr
    · rw [List.cons_append, valueWith_of_isDigit hc, ← List.cons_append]
      exact local_number false hs r hr
  | str s =>
    have hquote : (quote s).toList ++ r = '"' :: (s.toList.flatMap escapeChar ++ '"' :: r) := by
      simp [toList_quote]
    rw [hquote, valueWith_quote, text_quote hlimit]
    rfl
  | @arr inner vs s hs =>
    cases h with
    | some h =>
      have htext : '[' :: (s ++ [']']) ++ r = '[' :: (s ++ ']' :: r) := by simp
      simp only [List.length_cons, List.length_append] at hlimit
      rw [htext, valueWith_list, h.takes_items hs (by omega)]
  | @obj inner es s hd hs =>
    cases h with
    | some h =>
      have htext : '\x7b' :: (s ++ ['\x7d']) ++ r = '\x7b' :: (s ++ '\x7d' :: r) := by simp
      simp only [List.length_cons, List.length_append] at hlimit
      rw [htext, valueWith_object, h.takes_entries hd hs (by omega)]

/-- By induction on the depth. -/
theorem fits_writes (limit depth : Nat) : Fits (Writes depth) limit (value limit depth) := by
  induction depth with
  | zero => exact fits_writesWith .none
  | succ depth ih => exact fits_writesWith (.some ih)

end

/-- **A text of a value is read as the value**, if arrays and objects do not nest too deep in
it; there may be blanks around it. -/
theorem read_of_writes {before after : List Char} (h : Writes maxDepth v t)
    (hbefore : Blank before) (hafter : Blank after) :
    read (String.ofList (before ++ (t ++ after))) = .ok v := by
  have hlimit : t.length < (before ++ (t ++ after)).length + 1 := by
    simp only [List.length_append]
    omega
  have hfits := fits_writes ((before ++ (t ++ after)).length + 1) maxDepth
  have hends : Ends after := by
    simpa using ends_blank_append hafter ends_nil
  have hvalue := hfits.takes h hlimit after hends
  have hdocument : document (before ++ (t ++ after)) = .ok v := by
    rw [document, hfits.skips _ _ hbefore, hvalue]
    simp [bind, Except.bind, skipBlanks_blank hafter, pure, Except.pure]
  rw [read, String.toList_ofList]
  simp only [hdocument]

end Reshape.Json
