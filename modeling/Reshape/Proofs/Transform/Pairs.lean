/-
# Objects written by pairs

`to_hash` reads the items of an array as pairs: an object with a `key` that is not null writes its
`value` under the text of the key (`Pair`), and all other items write nothing.  If the last pair
wins (`LastWins`), the keys stand where they are first written and each has the value of the last
item with that key.

The array is freed of its repetitions first, and of what is left the last pair wins.  So an item
that equals one before it does not count when it comes again: the last pair of the whole array wins
where it comes for the first time, and for all keys if no pair comes twice.  The keys are those of
the whole array if equal pairs have keys of one text (`KeysAgree`), as they may not have: `0.0` and
`-0.0` are equal, and so are objects with their keys in another order.

Main statement: `toHash_lastWins`; in `switches` a pair comes again after another one.
-/
import Reshape.Proofs.Json.Dedup
import Reshape.Proofs.Rounds
import Reshape.Transform.Builtin

namespace Reshape.Transform

open Json (dedup)

variable {k : String} {v w x : Json} {items : List Json} {es : Entries Json}

/-! ## 1. Pairs -/

/-- A value is an object that writes `w` under the key `k`. -/
inductive Pair (k : String) (w : Json) : Json → Prop
  | mk {es : Entries Json} {key : Json} (hkey : Entries.get? "key" es = some key)
      (hn : key ≠ .null) (hk : k = key.toText)
      (hw : w = (Entries.get? "value" es).getD .null) : Pair k w (.obj es)

/-- A value is an object that writes something under the key `k`. -/
def HasKey (k : String) (v : Json) : Prop := ∃ w, Pair k w v

theorem pairEntry?_eq_some_iff : pairEntry? v = some (k, w) ↔ Pair k w v := by
  constructor
  · intro h
    unfold pairEntry? at h
    split at h
    · next es =>
      split at h
      · cases h
      · cases h
      · next key hn hkey =>
        cases h
        exact .mk hkey hn rfl rfl
    · cases h
  · rintro ⟨hkey, hn, rfl, rfl⟩
    unfold pairEntry?
    dsimp only
    rw [hkey]
    split
    · next h => cases h
    · next h => exact absurd (Option.some.inj h) hn
    · next key' _ h =>
      cases h
      rfl

theorem hasKey_iff : HasKey k v ↔ ∃ entry, pairEntry? v = some entry ∧ entry.1 = k := by
  simp only [HasKey, ← pairEntry?_eq_some_iff, Prod.exists]
  constructor
  · rintro ⟨w, h⟩
    exact ⟨k, w, h, rfl⟩
  · rintro ⟨_, w, h, rfl⟩
    exact ⟨w, h⟩

/-- Is a value a pair? -/
def isPair (v : Json) : Bool := Option.isSome <| pairEntry? v

theorem isPair_iff : isPair v = true ↔ ∃ k, HasKey k v := by
  rw [isPair, Option.isSome_iff_exists]
  constructor
  · rintro ⟨entry, hentry⟩
    exact ⟨entry.1, hasKey_iff.mpr ⟨entry, hentry, rfl⟩⟩
  · rintro ⟨k, hk⟩
    obtain ⟨entry, hentry, -⟩ := hasKey_iff.mp hk
    exact ⟨entry, hentry⟩

theorem isPair_obj (es : Entries Json) :
    isPair (.obj es) = (Entries.get? "key" es).any fun key => !key.isNull := by
  unfold isPair pairEntry?
  dsimp only
  split
  · next h => rw [h, Option.isSome_none, Option.any_none]
  · next h => rw [h, Option.isSome_none, Option.any_some, Json.isNull, Bool.not_true]
  · next key hn h =>
    have hkey : key.isNull = false := Bool.eq_false_iff.mpr (mt Json.isNull_iff.mp hn)
    rw [h, Option.isSome_some, Option.any_some, hkey, Bool.not_false]

/-- Of values that are the same both are pairs, or neither is. -/
theorem isPair_eq (h : v.Same w) : isPair v = isPair w := by
  cases h.parts with
  | @obj es fs hget =>
    have hkey := hget "key"
    rw [isPair_obj, isPair_obj]
    generalize Entries.get? "key" es = key? at hkey ⊢
    generalize Entries.get? "key" fs = key?' at hkey ⊢
    cases hkey with
    | none => rfl
    | some hab => rw [Option.any_some, Option.any_some, hab.isNull]
  | _ => rfl

/-! ## 2. The last pair wins -/

/-- The texts of the keys of pairs, in order. -/
def keyTexts (items : List Json) : List String := Entries.keys (items.filterMap pairEntry?)

/-- Of the pairs of an array the last one with each key has written the object; the keys stand in
the order in which they come first. -/
structure LastWins (items : List Json) (es : Entries Json) : Prop where
  keys : Entries.keys es = (keyTexts items).eraseDups
  get? (k : String) (w : Json) : Entries.get? k es = some w ↔
    ∃ x, IsLast (HasKey k) items x ∧ Pair k w x

/-- Writing one pair after the other lets the last one win. -/
theorem lastWins_ofList (items : List Json) :
    LastWins items (Entries.ofList (items.filterMap pairEntry?)) := by
  refine ⟨Entries.keys_ofList _, fun k w => ?_⟩
  have hread : Entries.get? k (items.filterMap pairEntry?).reverse = some w ↔
      ∃ entry, IsLast (fun entry => entry.1 = k) (items.filterMap pairEntry?) entry ∧
        entry.2 = w := by
    have h := @Entries.get?_reverse_map _ _ id (items.filterMap pairEntry?) k w
    rwa [List.map_id] at h
  have hlast : (fun x => ∃ entry, pairEntry? x = some entry ∧ entry.1 = k) = HasKey k :=
    funext fun x => propext hasKey_iff.symm
  rw [Entries.get?_ofList, hread]
  simp only [isLast_filterMap, hlast]
  constructor
  · rintro ⟨⟨k', w'⟩, ⟨x, hx, hentry⟩, rfl⟩
    obtain ⟨entry, hentry', hk⟩ := hasKey_iff.mp hx.property
    rw [hentry] at hentry'
    cases hentry'
    exact ⟨x, hx, pairEntry?_eq_some_iff.mp (hk ▸ hentry)⟩
  · rintro ⟨x, hx, hpair⟩
    exact ⟨(k, w), ⟨x, hx, pairEntry?_eq_some_iff.mpr hpair⟩, rfl⟩

/-- Items that are no pairs may come again. -/
theorem filterMap_dedup_of_pairwise (h : items.Pairwise fun v w => ∀ k, HasKey k v → ¬v.Same w) :
    (dedup items).filterMap pairEntry? = items.filterMap pairEntry? := by
  have hpairs : ∀ xs : List Json,
      xs.filterMap pairEntry? = (xs.filter isPair).filterMap pairEntry? := by
    intro xs
    rw [List.filterMap_filter]
    refine List.filterMap_congr fun v _ => ?_
    unfold isPair
    cases pairEntry? v <;> rfl
  have hunrepeated : Json.Unrepeated (items.filter isPair) := by
    rw [Json.Unrepeated, List.pairwise_filter]
    refine h.imp fun {v w} hvw hv _ => ?_
    obtain ⟨k, hk⟩ := isPair_iff.mp hv
    exact hvw k hk
  rw [hpairs, Json.filter_dedup fun _ _ => isPair_eq, Json.dedup_of_unrepeated hunrepeated,
    ← hpairs]

/-! ## 3. The keys -/

/-- Of values that are equal both write under the same key, or neither does. -/
def KeysAgree (items : List Json) : Prop :=
  ∀ v ∈ items, ∀ w ∈ items, v.Same w → ∀ k, HasKey k v → HasKey k w

theorem mem_keyTexts : k ∈ keyTexts items ↔ ∃ v ∈ items, HasKey k v := by
  simp only [keyTexts, Entries.keys, List.mem_map, List.mem_filterMap, hasKey_iff]
  constructor
  · rintro ⟨entry, ⟨v, hv, hentry⟩, rfl⟩
    exact ⟨v, hv, entry, hentry, rfl⟩
  · rintro ⟨v, hv, entry, hentry, rfl⟩
    exact ⟨entry, ⟨v, hv, hentry⟩, rfl⟩

theorem keyTexts_append (xs ys : List Json) : keyTexts (xs ++ ys) = keyTexts xs ++ keyTexts ys := by
  simp [keyTexts, Entries.keys]

/-- A value that is dropped brings up no new key: what equals it has brought it up before. -/
theorem eraseDups_keyTexts_dedupOnto (kept items : List Json) (h : KeysAgree (kept ++ items)) :
    (keyTexts (Json.dedupOnto kept items)).eraseDups = (keyTexts (kept ++ items)).eraseDups := by
  induction items generalizing kept with
  | nil => rw [Json.dedupOnto, List.append_nil]
  | cons v items ih =>
    rw [Json.dedupOnto]
    split
    · next hv =>
      obtain ⟨u, hu, hvu⟩ := Json.memberOf_iff_same.mp hv
      have hold : keyTexts [v] ⊆ keyTexts kept := by
        intro k hk
        obtain ⟨v', hv', hkey⟩ := mem_keyTexts.mp hk
        rw [List.mem_singleton.mp hv'] at hkey
        exact mem_keyTexts.mpr ⟨u, hu, h v (by simp) u (by simp [hu]) hvu k hkey⟩
      have hagree : KeysAgree (kept ++ items) := by
        have hsub : kept ++ items ⊆ kept ++ v :: items := by simp
        exact fun x hx y hy => h x (hsub hx) y (hsub hy)
      rw [ih kept hagree, keyTexts_append, keyTexts_append, ← List.singleton_append,
        keyTexts_append, Entries.eraseDups_append_append_of_subset hold]
    · rw [List.append_cons kept v items] at h ⊢
      exact ih (kept ++ [v]) h

/-! ## 4. The object -/

/-- **Of the pairs that come for the first time the last one wins.**  The object has the keys of the
pairs that are left when repetitions are dropped, in the order in which they come first, and under
each key the value of the last one of them.  These are the keys of the whole array if equal pairs
have keys of one text.  The last pair of the whole array with a key wins if it equals nothing before
it, and the last pair wins under every key if no pair comes again. -/
theorem toHash_lastWins (items : List Json) :
    ∃ es, toHash (.arr items) [] = pure (.obj es) ∧
      LastWins (dedup items) es ∧
      (KeysAgree items → Entries.keys es = (keyTexts items).eraseDups) ∧
      (∀ before x after k w, items = before ++ x :: after → Pair k w x →
        (∀ y ∈ before, ¬x.Same y) → (∀ y ∈ after, ¬HasKey k y) →
        Entries.get? k es = some w) ∧
      ((items.Pairwise fun v w => ∀ k, HasKey k v → ¬v.Same w) → LastWins items es) := by
  have hwins := lastWins_ofList (dedup items)
  refine ⟨_, rfl, hwins, ?_, ?_, ?_⟩
  · intro h
    exact hwins.keys.trans (eraseDups_keyTexts_dedupOnto [] items h)
  · intro before x after k w hitems hpair hnew hafter
    obtain ⟨rest, hrest, hsub⟩ : ∃ rest,
        dedup (before ++ x :: after) = dedup before ++ x :: rest ∧ rest ⊆ after :=
      Json.exists_dedup_append_cons (Json.not_memberOf_iff.mpr hnew)
    refine (hwins.get? k w).mpr ⟨x, ⟨dedup before, rest, ?_, ⟨w, hpair⟩, ?_⟩, hpair⟩
    · rw [hitems, hrest]
    · exact fun y hy => hafter y (hsub hy)
  · intro h
    have hall := lastWins_ofList items
    rwa [← filterMap_dedup_of_pairwise h] at hall

/-! ## 5. Positions of a switch -/

/-- The pair that puts the mode of a switch. -/
def switchTo (position : String) : Json :=
  .obj [("key", .str "mode"), ("value", .str position)]

theorem pair_switchTo (position : String) :
    Pair "mode" (.str position) (switchTo position) :=
  .mk rfl (by simp) rfl rfl

theorem eq_of_hasKey_switchTo {position : String} (h : HasKey k (switchTo position)) :
    k = "mode" := by
  obtain ⟨w, hkey, -, rfl, -⟩ := h
  cases hkey
  rfl

/-- Two keys with one text, and items that write nothing, one of them twice. -/
def readings : List Json :=
  [.obj [("key", .int 1), ("value", .str "low")], .str "void", .obj [("key", .str "1")],
    .str "void", .obj [("value", .int 2)], .obj [("key", .null), ("value", .int 3)]]

/-- A switch that is put on twice, then off. -/
def toggles : List Json := [switchTo "on", switchTo "on", switchTo "off"]

theorem keysAgree_toggles : KeysAgree toggles := by
  have hswitch : ∀ v ∈ toggles, ∃ position, v = switchTo position := by
    simp [toggles]
  intro v hv w hw _ k hk
  obtain ⟨p, rfl⟩ := hswitch v hv
  obtain ⟨q, rfl⟩ := hswitch w hw
  rw [eq_of_hasKey_switchTo hk]
  exact ⟨_, pair_switchTo q⟩

theorem readings_lastWins :
    (readings.Pairwise fun v w => ∀ k, HasKey k v → ¬v.Same w) ∧
    toHash (.arr readings) [] = pure (.obj [("1", .null)]) ∧
    LastWins readings [("1", .null)] ∧
    KeysAgree toggles ∧ (∀ y ∈ [switchTo "on", switchTo "on"], ¬(switchTo "off").Same y) ∧
    ∃ es, toHash (.arr toggles) [] = pure (.obj es) ∧ Entries.keys es = ["mode"] ∧
      Entries.get? "mode" es = some (.str "off") := by
  have hpairs : readings.Pairwise fun v w => isPair v = true → v.equal w = false := by
    decide +kernel
  have honce : readings.Pairwise fun v w => ∀ k, HasKey k v → ¬v.Same w := by
    refine hpairs.imp fun {v w} hvw k hv hsame => ?_
    have := hvw (isPair_iff.mpr ⟨k, hv⟩)
    rw [Json.equal_iff_same.mpr hsame] at this
    cases this
  have hresult : (toHash (.arr readings) []).result = .ok (.obj [("1", .null)]) := by
    decide +kernel
  obtain ⟨es, hes, -, -, -, hlast⟩ := toHash_lastWins readings
  have hobj : es = [("1", .null)] := by
    rw [hes] at hresult
    cases hresult
    rfl
  have hnew : ∀ y ∈ [switchTo "on", switchTo "on"], ¬(switchTo "off").Same y := by
    simp only [← Json.equal_iff_same]
    decide +kernel
  obtain ⟨modes, hmodes, -, hkeys, hwins, -⟩ := toHash_lastWins toggles
  have hmode := hwins [switchTo "on", switchTo "on"] (switchTo "off") [] "mode" (.str "off") rfl
    (pair_switchTo "off") hnew (by simp)
  have htexts : (keyTexts toggles).eraseDups = ["mode"] := by decide +kernel
  exact ⟨honce, hobj ▸ hes, hobj ▸ hlast honce, keysAgree_toggles, hnew, modes, hmodes,
    (hkeys keysAgree_toggles).trans htexts, hmode⟩

/-- A switch that is put on, off and on again. -/
def switches : List Json := [switchTo "on", switchTo "off", switchTo "on"]

/-- **A pair that comes again does not win.**  The switch is left off, though it was put on last. -/
theorem switches_leftOff :
    toHash (.arr switches) [] = pure (.obj [("mode", .str "off")]) ∧
    ¬∃ es, toHash (.arr switches) [] = pure (.obj es) ∧ LastWins switches es := by
  have hrun : (toHash (.arr switches) []).result = .ok (.obj [("mode", .str "off")]) := by
    decide +kernel
  refine ⟨Reporting.ext hrun rfl, ?_⟩
  rintro ⟨es, hes, hlast⟩
  have hon : Entries.get? "mode" es = some (.str "on") := by
    refine (hlast.get? "mode" (.str "on")).mpr ⟨switchTo "on", ?_, pair_switchTo "on"⟩
    exact ⟨[switchTo "on", switchTo "off"], [], rfl, ⟨_, pair_switchTo "on"⟩, by simp⟩
  rw [hes] at hrun
  cases hrun
  exact absurd hon (by decide +kernel)

end Reshape.Transform
