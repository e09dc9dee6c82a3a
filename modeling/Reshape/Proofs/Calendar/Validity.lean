/-
# Instants that are read

An instant has a place in time, its rank.  Ranks are told apart only between instants that are
valid: of a day that there is and of a second of that day (`Instant.Valid`, `eq_of_rank_eq`).  Every
instant that a text writes is valid, in whatever form it is written (`valid_of_read?`), so the order
of the instants that are read is total, and two of them that are not before each other are one.

A scanner answers a value and what is left of the text.  `Yields P` says what all its values are
like; most parts of a date may be any number, since the day and the time of day are checked when
they are put together (`instant?`).
-/
import Mathlib.Algebra.Group.Nat.Defs
import Mathlib.Data.List.Induction
import Reshape.Calendar.Reader

namespace Reshape

/-! ## 1. Valid instants -/

namespace Date

theorem daysInMonth_le (y : Int) (m : Nat) : daysInMonth y m ≤ 31 := by
  unfold daysInMonth
  split
  · split <;> omega
  · split <;> omega

/-- What a day is like that there is: its month and its day are small. -/
theorem bounds_of_isValid {d : Date} (h : d.isValid = true) :
    1 ≤ d.month ∧ d.month ≤ 12 ∧ 1 ≤ d.day ∧ d.day ≤ 31 := by
  simp only [isValid, Bool.and_eq_true, decide_eq_true_eq] at h
  obtain ⟨⟨⟨⟨-, hm⟩, hm'⟩, hd⟩, hd'⟩ := h
  exact ⟨hm, hm', hd, Nat.le_trans hd' (daysInMonth_le d.year d.month)⟩

end Date

namespace Instant

variable {t u : Instant}

/-- An instant of a day that there is, at a second of that day; the nanoseconds of a leap second
count on from those of the second before it. -/
structure Valid (t : Instant) : Prop where
  date : t.date.isValid = true
  second : t.second < 86400
  nanos : t.nanos < 2000000000

/-- **Valid instants of one rank are one instant.** -/
theorem eq_of_rank_eq (ht : t.Valid) (hu : u.Valid) (h : t.rank = u.rank) : t = u := by
  obtain ⟨⟨ty, tm, td⟩, ts, tn⟩ := t
  obtain ⟨⟨uy, um, ud⟩, us, un⟩ := u
  obtain ⟨htdate, hts, htn⟩ := ht
  obtain ⟨hudate, hus, hun⟩ := hu
  obtain ⟨htm, htm', htd, htd'⟩ := Date.bounds_of_isValid htdate
  obtain ⟨hum, hum', hud, hud'⟩ := Date.bounds_of_isValid hudate
  simp only [rank] at h
  dsimp only at hts htn hus hun htm htm' htd htd' hum hum' hud hud'
  -- the rank is a numeral whose places are the nanosecond, the second, the day and the month
  have hn : tn = un := by omega
  have hs : ts = us := by omega
  have hd : td = ud := by omega
  have hm : tm = um := by omega
  have hy : ty = uy := by omega
  subst hn hs hd hm hy
  rfl

theorem valid_of_fromOffset? {offset : Int} (ht : t.Valid) (ho : offset.natAbs < 86400)
    (h : t.fromOffset? offset = some u) : u.Valid := by
  have hs := ht.second
  simp only [fromOffset?, Option.ite_none_right_eq_some, Option.some.injEq] at h
  obtain ⟨hdate, rfl⟩ := h
  refine ⟨hdate, ?_, ?_⟩
  · split
    · dsimp only
      omega
    · split
      · dsimp only
        omega
      · dsimp only
        omega
  · split
    · exact ht.nanos
    · split
      · exact ht.nanos
      · exact ht.nanos

end Instant

/-! ## 2. What a scanner yields -/

namespace Calendar

variable {α β : Type} {P : α → Prop} {Q : β → Prop}

/-- Every value that is scanned meets `P`. -/
def Yields (P : α → Prop) (scan : Scan α) : Prop :=
  ∀ ⦃s x rest⦄, scan s = some (x, rest) → P x

theorem yields_any (scan : Scan α) : Yields (fun _ => True) scan := fun _ _ _ _ => trivial

theorem yields_pure {x : α} (h : P x) : Yields P (pure x : Scan α) := by
  intro s y rest hy
  cases hy
  exact h

theorem yields_fail : Yields P (fail : Scan α) := by
  intro s x rest h
  cases h

theorem yields_lift {x? : Option α} (h : ∀ x, x? = some x → P x) :
    Yields P (StateT.lift x? : Scan α) := by
  intro s x rest hx
  obtain ⟨y, hy, hx⟩ := Option.bind_eq_some_iff.mp hx
  cases hx
  exact h _ hy

theorem yields_bind {scan : Scan α} {next : α → Scan β} (h : Yields P scan)
    (hnext : ∀ x, P x → Yields Q (next x)) : Yields Q (scan >>= next) := by
  intro s y rest hy
  obtain ⟨⟨x, left⟩, hx, hy⟩ := Option.bind_eq_some_iff.mp hy
  exact hnext x (h hx) hy

/-- What comes behind a scanner of which nothing is known. -/
theorem yields_next {scan : Scan α} {next : α → Scan β} (hnext : ∀ x, Yields Q (next x)) :
    Yields Q (scan >>= next) :=
  yields_bind (yields_any scan) fun x _ => hnext x

/-- What comes behind one of two scanners. -/
theorem yields_either {c : Prop} [Decidable c] {first second : Scan α} {next : α → Scan β}
    (hfirst : Yields P first) (hsecond : Yields P second) (hnext : ∀ x, P x → Yields Q (next x)) :
    Yields Q (if c then first >>= next else second >>= next) := by
  split
  · exact yields_bind hfirst hnext
  · exact yields_bind hsecond hnext

/-- What comes behind a scanner that may be passed over. -/
theorem yields_unless {c : Prop} [Decidable c] {scan : Scan Unit} {next : Unit → Scan β}
    (hnext : Yields Q (next ())) : Yields Q (if c then scan >>= next else next ()) := by
  split
  · exact yields_next fun _ => hnext
  · exact hnext

/-! ## 3. Readers -/

theorem valid_of_instant? {date : Date} {hour minute second nanos : Nat} {t : Instant}
    (hn : nanos < 1000000000) (h : instant? date hour minute second nanos = some t) : t.Valid := by
  simp only [instant?, Option.ite_none_right_eq_some, Option.some.injEq, Bool.and_eq_true,
    decide_eq_true_eq] at h
  obtain ⟨⟨⟨⟨hdate, hhour⟩, hminute⟩, hsecond⟩, rfl⟩ := h
  refine ⟨hdate, ?_, ?_⟩
  · dsimp only
    split <;> omega
  · dsimp only
    split <;> omega

/-- An instant in a zone is valid, if the day and the time of day are checked. -/
theorem yields_inZone {date : Date} {hour minute second nanos : Nat} (hn : nanos < 1000000000)
    (zone : Int) : Yields Instant.Valid (inZone (instant? date hour minute second nanos) zone) := by
  unfold inZone
  cases ht : instant? date hour minute second nanos with
  | none => exact yields_fail
  | some t =>
    dsimp only
    split
    · next hzone =>
      exact yields_lift fun u hu => Instant.valid_of_fromOffset? (valid_of_instant? hn ht) hzone hu
    · exact yields_fail

/-- The number that digits write has as many digits. -/
theorem decimal_lt {ds : List Char} (h : ∀ c ∈ ds, c.isDigit = true) :
    Text.decimal ds < 10 ^ ds.length := by
  induction ds using List.reverseRecOn with
  | nil => decide
  | append_singleton ds c ih =>
    obtain ⟨hds, hc⟩ := List.forall_mem_append.mp h
    have hfront := ih hds
    have hlast : c.toNat - '0'.toNat < 10 := by
      have hdigit := Char.isDigit_iff_toNat.mp (hc c (by simp))
      have hzero : '0'.toNat = 48 := rfl
      have hnine : '9'.toNat = 57 := rfl
      omega
    have hsplit : Text.decimal (ds ++ [c]) = 10 * Text.decimal ds + (c.toNat - '0'.toNat) :=
      List.foldl_append
    rw [hsplit, List.length_append, List.length_singleton, Nat.pow_succ]
    omega

theorem yields_digits (least most : Nat) :
    Yields (fun d => d.1 ≤ most ∧ d.2 < 10 ^ d.1) (digits least (some most)) := by
  intro s d rest h
  simp only [digits, Option.ite_none_left_eq_some, Option.some.injEq] at h
  obtain ⟨-, h⟩ := h
  obtain ⟨rfl, -⟩ := Prod.mk.inj h
  have hlength : ((s.take most).takeWhile Char.isDigit).length ≤ (s.take most).length :=
    (List.takeWhile_prefix _).length_le
  have hmost : (s.take most).length ≤ most := List.length_take_le _ _
  exact ⟨Nat.le_trans hlength hmost,
    decimal_lt fun c hc => List.all_eq_true.mp List.all_takeWhile c hc⟩

/-- A fraction of a second is less than a second. -/
theorem yields_fraction : Yields (· < 1000000000) fraction := by
  refine yields_bind (yields_digits 1 9) fun d hd => yields_next fun _ => yields_pure ?_
  obtain ⟨hlength, hdigits⟩ := hd
  have hscale : 10 ^ d.1 * 10 ^ (9 - d.1) = 1000000000 := by
    rw [← Nat.pow_add, Nat.add_sub_cancel' hlength]
  calc d.2 * 10 ^ (9 - d.1) < 10 ^ d.1 * 10 ^ (9 - d.1) :=
        Nat.mul_lt_mul_of_pos_right hdigits (Nat.pow_pos (by decide))
    _ = 1000000000 := hscale

theorem yields_timestamp : Yields Instant.Valid timestamp := by
  unfold timestamp
  refine yields_next fun year => yields_next fun _ => yields_next fun month => yields_next fun _ =>
    yields_next fun day => yields_next fun mark => ?_
  refine yields_either (yields_any _) (yields_any _) fun mark' _ => yields_unless ?_
  refine yields_next fun hour => yields_next fun _ => yields_next fun minute =>
    yields_next fun _ => yields_next fun second => yields_next fun point => ?_
  refine yields_either yields_fraction (yields_pure (by decide)) fun nanos hnanos => ?_
  refine yields_next fun zulu => yields_either (yields_any _) (yields_any _) fun zulu' _ => ?_
  refine yields_either (yields_any _) (yields_any _) fun zone _ => ?_
  exact yields_bind (yields_inZone hnanos zone) fun t ht => yields_next fun _ => yields_pure ht

theorem yields_mailDate : Yields Instant.Valid mailDate := by
  unfold mailDate
  refine yields_next fun _ => yields_next fun weekday => yields_next fun _ => yields_next fun day =>
    yields_next fun _ => yields_next fun month => yields_next fun _ => yields_next fun year =>
    yields_next fun _ => yields_next fun hour => yields_next fun _ => yields_next fun _ =>
    yields_next fun _ => yields_next fun minute => yields_next fun second => yields_next fun _ =>
    yields_next fun zone => yields_next fun _ => yields_unless ?_
  exact yields_bind (yields_inZone (by decide) zone) fun t ht =>
    yields_next fun _ => yields_pure ht

theorem yields_pattern (parts : List Part) : Yields Instant.Valid (pattern parts) := by
  unfold pattern
  refine yields_next fun f => yields_next fun _ => yields_lift fun t ht => ?_
  exact valid_of_instant? (by decide) ht

/-- **Every reader yields valid instants.** -/
theorem yields_of_mem_readers {r : Scan Instant} (h : r ∈ readers) : Yields Instant.Valid r := by
  rcases List.mem_cons.mp h with rfl | h
  · exact yields_timestamp
  · rcases List.mem_cons.mp h with rfl | h
    · exact yields_mailDate
    · obtain ⟨parts, -, rfl⟩ := List.mem_map.mp h
      exact yields_pattern parts

end Calendar

/-- **Every instant that a text writes is valid.** -/
theorem Instant.valid_of_read? {s : String} {t : Instant} (h : read? s = some t) : t.Valid := by
  obtain ⟨r, hr, hrun⟩ := List.exists_of_findSome?_eq_some h
  obtain ⟨⟨u, rest⟩, hu, rfl⟩ := Option.map_eq_some_iff.mp hrun
  exact Calendar.yields_of_mem_readers hr hu

end Reshape
