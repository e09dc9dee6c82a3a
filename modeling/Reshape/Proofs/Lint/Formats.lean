/-
# The names of YAML texts

Two functions tell from a pathname whether a file holds YAML.  The linter collects mapping files
by the extension of their last component, and the loader reads a file as YAML by the ending of
the whole pathname, in small letters and cut at the first question mark or number sign.

On a pathname without such a mark the two agree, but for names that have a capital in their
ending or nothing in front of it (`formats_agree`).  Where there is a mark, the loader does not
see the name at all if the mark is in a directory: a mapping file that is collected for its
extension is then read as JSON (`taggedMaps_misread`).
-/
import Mathlib.Data.List.Infix
import Reshape.Lint.Report
import Reshape.Proofs.Pathname

namespace Reshape

/-! ## 1. What the loader looks at -/

namespace Format

variable {path directory name : String} {front text : List Char}

/-- Only a letter has a small letter of its own. -/
theorem toLower_eq_iff {c m : Char} (hm : m.toNat < 65) : c.toLower = m ↔ c = m := by
  by_cases hc : 65 ≤ c.toNat ∧ c.toNat ≤ 90
  · have hlow : c.toLower.toNat = c.toNat + 32 := by
      have hval : c.val ≥ 'A'.val ∧ c.val ≤ 'Z'.val := hc
      have hlower : c.toLower.toNat = (c.val + 32).toNat := congrArg Char.toNat (dif_pos hval)
      rw [hlower]
      change (c.val + 32).toNat = c.val.toNat + 32
      have hle : c.val.toNat ≤ 90 := hc.2
      have hsmall : (32 : UInt32).toNat = 32 := rfl
      rw [UInt32.toNat_add, hsmall, Nat.mod_eq_of_lt (by omega)]
    constructor
    · rintro rfl
      omega
    · rintro rfl
      omega
  · have hval : ¬(c.val ≥ 'A'.val ∧ c.val ≤ 'Z'.val) := hc
    rw [show c.toLower = c from dif_neg hval]

/-- The loader cuts a pathname at its first mark. -/
def IsMark (c : Char) : Prop := c = '?' ∨ c = '#'

instance : DecidablePred IsMark := fun c => inferInstanceAs (Decidable (c = '?' ∨ c = '#'))

/-- There is nothing to cut. -/
def Unmarked (path : String) : Prop := ∀ c ∈ path.toList, ¬IsMark c

/-- A pathname has a mark, and its first one is behind a text. -/
def CutAt (path : String) (front : List Char) : Prop :=
  (∀ c ∈ front, ¬IsMark c) ∧ ∃ mark rest, IsMark mark ∧ path.toList = front ++ mark :: rest

/-- Does a text end as the names of YAML texts do, without regard to case? -/
def EndsAsYaml (text : List Char) : Prop := ∃ e ∈ yamlEndings, e <:+ text.map Char.toLower

theorem isMark_iff {c : Char} : IsMark c ↔ (c != '?' && c != '#') = false := by
  simp [IsMark, Classical.or_iff_not_imp_left]

theorem not_isMark_iff {c : Char} : ¬IsMark c ↔ (c != '?' && c != '#') = true := by
  rw [isMark_iff, Bool.not_eq_false]

theorem unmarked_or_cutAt (path : String) : Unmarked path ∨ ∃ front, CutAt path front := by
  cases h : path.toList.find? fun c => decide (IsMark c) with
  | none => exact .inl fun c hc => by simpa using List.find?_eq_none.mp h c hc
  | some mark =>
    obtain ⟨hmark, front, rest, hpath, hfront⟩ := List.find?_eq_some_iff_append.mp h
    exact .inr ⟨front, fun c hc => by simpa using hfront c hc, mark, rest, by simpa using hmark,
      hpath⟩

theorem CutAt.not_unmarked (h : CutAt path front) : ¬Unmarked path := by
  obtain ⟨-, mark, rest, hmark, hpath⟩ := h
  exact fun hunmarked => hunmarked mark (by simp [hpath]) hmark

theorem ofName_eq_yaml_iff : Format.ofName path = .yaml ↔
    EndsAsYaml (path.toList.takeWhile fun c => c != '?' && c != '#') := by
  have hmark : (fun c : Char => c != '?' && c != '#') ∘ Char.toLower =
      fun c => c != '?' && c != '#' := by
    funext c
    simp only [Function.comp_apply, bne, Bool.beq_eq_decide_eq,
      toLower_eq_iff (m := '?') (by decide), toLower_eq_iff (m := '#') (by decide)]
  rw [ofName, List.takeWhile_map, hmark]
  split
  · next h => simpa [EndsAsYaml] using h
  · next h => simpa [EndsAsYaml] using h

theorem ofName_of_unmarked (h : Unmarked path) :
    Format.ofName path = .yaml ↔ EndsAsYaml path.toList := by
  rw [ofName_eq_yaml_iff, List.takeWhile_eq_self_iff.mpr fun c hc => not_isMark_iff.mp (h c hc)]

theorem ofName_of_cutAt (h : CutAt path front) :
    Format.ofName path = .yaml ↔ EndsAsYaml front := by
  obtain ⟨hfront, mark, rest, hmark, hpath⟩ := h
  rw [ofName_eq_yaml_iff, hpath, List.takeWhile_append_of_pos fun c hc =>
    not_isMark_iff.mp (hfront c hc), List.takeWhile_cons_of_neg (by rw [isMark_iff.mp hmark]; simp),
    List.append_nil]

theorem slash_not_mem {e : List Char} (h : e ∈ yamlEndings) : '/' ∉ e := by
  simp only [yamlEndings, List.mem_cons, List.not_mem_nil, or_false] at h
  obtain rfl | rfl := h <;> decide

/-- The endings have small letters only. -/
theorem map_toLower_ending {e : List Char} (h : e ∈ yamlEndings) : e.map Char.toLower = e := by
  simp only [yamlEndings, List.mem_cons, List.not_mem_nil, or_false] at h
  obtain rfl | rfl := h <;> decide

/-- No ending is the end of the other. -/
theorem ending_eq {e e' text : List Char} (he : e ∈ yamlEndings) (he' : e' ∈ yamlEndings)
    (h : e <:+ text) (h' : e' <:+ text) : e = e' := by
  have hends : ∀ e ∈ yamlEndings, ∀ e' ∈ yamlEndings, e <:+ e' → e = e' := by decide
  obtain hs | hs := List.suffix_or_suffix_of_suffix h h'
  · exact hends e he e' he' hs
  · exact (hends e' he' e he hs).symm

/-- The ending of a pathname is that of the name, since no ending reaches over a slash. -/
theorem endsAsYaml_of_within (h : Pathname.Within directory name path) :
    EndsAsYaml path.toList ↔ EndsAsYaml name.toList := by
  obtain hd | ⟨d, hd⟩ := h.directory
  · rw [h.eq, hd, String.empty_append]
  · have hpath : path.toList.map Char.toLower =
        d.toList.map Char.toLower ++ '/' :: name.toList.map Char.toLower := by
      rw [h.eq, hd]
      simp [(toLower_eq_iff (c := '/') (m := '/') (by decide)).mpr rfl]
    refine exists_congr fun e => and_congr_right fun he => ?_
    rw [hpath]
    constructor
    · intro hs
      obtain hs | hs := List.suffix_or_suffix_of_suffix hs (List.suffix_append _ _)
      · obtain rfl | hs := List.suffix_cons_iff.mp hs
        · exact absurd List.mem_cons_self (slash_not_mem he)
        · exact hs
      · exact absurd (hs.subset List.mem_cons_self) (slash_not_mem he)
    · exact fun hs => hs.trans ((List.suffix_cons _ _).trans (List.suffix_append _ _))

end Format

/-! ## 2. What the linter looks at -/

namespace Lint

variable {fs : FileSystem} {base path directory name : String}

/-- Does the linter take a file for a YAML text? -/
def IsYaml (path : String) : Prop :=
  Pathname.extension? path = some "yaml" ∨ Pathname.extension? path = some "yml"

/-- The name of a YAML text: an ending in small letters behind something. -/
def YamlName (name : String) : Prop :=
  ∃ stem e, stem ≠ [] ∧ e ∈ Format.yamlEndings ∧ name.toList = stem ++ e

/-- A name that is nothing but an ending, or has an ending with a capital in it. -/
def OddName (name : String) : Prop :=
  ∃ stem e, e.map Char.toLower ∈ Format.yamlEndings ∧ name.toList = stem ++ e ∧
    (stem = [] ∨ e.map Char.toLower ≠ e)

theorem isYaml_iff (h : Pathname.Within directory name path) : IsYaml path ↔ YamlName name := by
  rw [IsYaml, h.extension?_eq, Pathname.extensionOf?_eq_some_iff,
    Pathname.extensionOf?_eq_some_iff]
  constructor
  · rintro (⟨-, stem, hne, hname⟩ | ⟨-, stem, hne, hname⟩)
    · exact ⟨stem, _, hne, by decide, hname⟩
    · exact ⟨stem, _, hne, by decide, hname⟩
  · rintro ⟨stem, e, hne, he, hname⟩
    simp only [Format.yamlEndings, List.mem_cons, List.not_mem_nil, or_false] at he
    obtain rfl | rfl := he
    · exact .inl ⟨by decide, stem, hne, hname⟩
    · exact .inr ⟨by decide, stem, hne, hname⟩

theorem isMappingFile_of_isYaml (h : IsYaml path) : isMappingFile path = true := by
  rw [isMappingFile]
  obtain h | h := h <;> rw [h] <;> decide

/-- The names with the ending of a YAML text are those that the linter takes for such, and the odd
ones. -/
theorem endsAsYaml_iff : Format.EndsAsYaml name.toList ↔ YamlName name ∨ OddName name := by
  constructor
  · rintro ⟨e, he, stem, hname⟩
    obtain ⟨front, back, hsplit, rfl, rfl⟩ := List.map_eq_append_iff.mp hname.symm
    by_cases hsmall : front = [] ∨ back.map Char.toLower ≠ back
    · exact .inr ⟨front, back, he, hsplit, hsmall⟩
    · obtain ⟨hne, hback⟩ := not_or.mp hsmall
      rw [Decidable.not_not.mp hback] at he
      exact .inl ⟨front, back, hne, he, hsplit⟩
  · rintro (⟨stem, e, -, he, hname⟩ | ⟨stem, e, he, hname, -⟩)
    · refine ⟨e, he, ?_⟩
      rw [hname, List.map_append, Format.map_toLower_ending he]
      exact List.suffix_append _ _
    · refine ⟨_, he, ?_⟩
      rw [hname, List.map_append]
      exact List.suffix_append _ _

theorem OddName.not_yamlName (h : OddName name) : ¬YamlName name := by
  rintro ⟨stem', e', hne', he', hname'⟩
  obtain ⟨stem, e, he, hname, hodd⟩ := h
  have hends : e.map Char.toLower <:+ name.toList.map Char.toLower := by
    rw [hname, List.map_append]
    exact List.suffix_append _ _
  have hends' : e' <:+ name.toList.map Char.toLower := by
    rw [hname', List.map_append, Format.map_toLower_ending he']
    exact List.suffix_append _ _
  have hlower : e.map Char.toLower = e' := Format.ending_eq he he' hends hends'
  -- the two endings are equally long, so the name is cut at the same place
  have hlength : e.length = e'.length := by rw [← hlower, List.length_map]
  obtain ⟨rfl, rfl⟩ := List.append_inj' (hname.symm.trans hname') hlength
  exact hodd.elim hne' fun h => h hlower

/-- A pathname leads to a file that is looked at if another one is linted: to that file itself, or
to one below that directory. -/
inductive Reaches (fs : FileSystem) (base : String) : String → Prop
  | itself {content : ByteArray} (h : fs.find? base = some (.file content)) : Reaches fs base base
  | below {es : List (String × FileItem)} {names : List String}
      (h : fs.find? base = some (.directory es)) (hn : names ∈ FileItem.filesOf es) :
      Reaches fs base (names.foldl Pathname.join base)

/-- The names of a file below a directory end with its own. -/
theorem within_below {es : List (String × FileItem)} {names : List String} (hfs : fs.WellNamed)
    (h : fs.find? base = some (.directory es)) (hn : names ∈ FileItem.filesOf es) :
    ∃ directory, Pathname.Within directory (names.getLast?.getD "")
      (names.foldl Pathname.join base) ∧ Pathname.IsName (names.getLast?.getD "") := by
  have hnames : ∀ n ∈ names, Pathname.IsName n := hfs.isName h hn
  obtain rfl | ⟨front, last, rfl⟩ := names.eq_nil_or_concat'
  · obtain ⟨name, item, -, q, -, hq⟩ := FileItem.mem_filesOf.mp hn
    cases hq
  · have hlast : Pathname.IsName last := hnames last (by simp)
    rw [List.getLast?_concat, Option.getD_some]
    obtain ⟨directory, hwithin⟩ := Pathname.within_foldl_join front hlast base
    exact ⟨directory, hwithin, hlast⟩

theorem Reaches.within (hfs : fs.WellNamed) (h : Reaches fs base path) :
    ∃ directory name, Pathname.Within directory name path := by
  cases h with
  | itself h => exact FileSystem.within_of_find? h
  | below h hn =>
    obtain ⟨directory, hwithin, -⟩ := within_below hfs h hn
    exact ⟨directory, _, hwithin⟩

theorem isMappingFile_of_within (h : Pathname.Within directory name path) :
    isMappingFile name = isMappingFile path := by
  rw [isMappingFile, isMappingFile, h.extension?_eq, h.isName.within.extension?_eq]

/-- What is linted are the files that are reached and look like mapping files. -/
theorem mem_mappingFiles_iff (hfs : fs.WellNamed) :
    path ∈ mappingFiles fs base ↔ Reaches fs base path ∧ isMappingFile path = true := by
  rw [mappingFiles]
  split
  · next h =>
    refine iff_of_false (by simp) ?_
    rintro ⟨h' | ⟨h', -⟩, -⟩ <;> rw [h] at h' <;> cases h'
  · next content h =>
    constructor
    · intro hp
      split at hp
      · next hm =>
        obtain rfl := List.mem_singleton.mp hp
        exact ⟨.itself h, hm⟩
      · cases hp
    · rintro ⟨h' | ⟨h', -⟩, hm⟩
      · rw [if_pos hm]
        exact List.mem_singleton_self _
      · rw [h] at h'
        cases h'
  · next es h =>
    simp only [List.mem_map, List.mem_mergeSort, List.mem_filter]
    constructor
    · rintro ⟨names, ⟨hn, hm⟩, rfl⟩
      obtain ⟨directory, hwithin, -⟩ := within_below hfs h hn
      exact ⟨.below h hn, isMappingFile_of_within hwithin ▸ hm⟩
    · rintro ⟨h' | ⟨h', hn⟩, hm⟩
      · rw [h] at h'
        cases h'
      · rw [h] at h'
        cases h'
        obtain ⟨directory, hwithin, -⟩ := within_below hfs h hn
        exact ⟨_, ⟨hn, isMappingFile_of_within hwithin ▸ hm⟩, rfl⟩

/-! ## 3. Both -/

theorem ofName_eq_json_iff : Format.ofName path = .json ↔ ¬Format.ofName path = .yaml := by
  cases Format.ofName path <;> simp

theorem loadFile_of_yaml {text : String} (hread : fs.readText path = .ok text)
    (h : Format.ofName path = .yaml) : Source.loadFile fs path = Source.read .yaml text := by
  rw [Source.loadFile, FileSystem.contains_of_readText hread, hread, h]
  rfl

/-- Without a mark the loader takes for YAML what the linter does, and odd names. -/
theorem ofName_iff (h : Pathname.Within directory name path) (hunmarked : Format.Unmarked path) :
    Format.ofName path = .yaml ↔ YamlName name ∨ OddName name := by
  rw [Format.ofName_of_unmarked hunmarked, Format.endsAsYaml_of_within h, endsAsYaml_iff]

/-- When YAML for the linter is JSON for the loader. -/
theorem isYaml_and_json_iff (h : Pathname.Within directory name path) :
    IsYaml path ∧ Format.ofName path = .json ↔
      YamlName name ∧ ∃ front, Format.CutAt path front ∧ ¬Format.EndsAsYaml front := by
  rw [isYaml_iff h, ofName_eq_json_iff]
  refine and_congr_right fun hname => ?_
  obtain hunmarked | ⟨front, hcut⟩ := Format.unmarked_or_cutAt path
  · -- without a mark the loader agrees, and there is nothing to cut
    refine iff_of_false (fun hjson => hjson ((ofName_iff h hunmarked).mpr (.inl hname))) ?_
    rintro ⟨front, hcut, -⟩
    exact hcut.not_unmarked hunmarked
  · rw [Format.ofName_of_cutAt hcut]
    refine ⟨fun hends => ⟨front, hcut, hends⟩, ?_⟩
    rintro ⟨front', hcut', hends⟩
    rwa [← Format.ofName_of_cutAt hcut, Format.ofName_of_cutAt hcut']

/-- When YAML for the loader is none for the linter. -/
theorem yaml_and_not_isYaml_iff (h : Pathname.Within directory name path) :
    Format.ofName path = .yaml ∧ ¬IsYaml path ↔
      Format.Unmarked path ∧ OddName name ∨
        ¬YamlName name ∧ ∃ front, Format.CutAt path front ∧ Format.EndsAsYaml front := by
  rw [isYaml_iff h]
  obtain hunmarked | ⟨front, hcut⟩ := Format.unmarked_or_cutAt path
  · rw [ofName_iff h hunmarked]
    constructor
    · rintro ⟨hname | hodd, hnot⟩
      · exact absurd hname hnot
      · exact .inl ⟨hunmarked, hodd⟩
    · rintro (⟨-, hodd⟩ | ⟨-, front, hcut, -⟩)
      · exact ⟨.inr hodd, hodd.not_yamlName⟩
      · exact absurd hunmarked hcut.not_unmarked
  · constructor
    · rintro ⟨hyaml, hnot⟩
      exact .inr ⟨hnot, front, hcut, (Format.ofName_of_cutAt hcut).mp hyaml⟩
    · rintro (⟨hunmarked, -⟩ | ⟨hnot, front', hcut', hends⟩)
      · exact absurd hunmarked hcut.not_unmarked
      · exact ⟨(Format.ofName_of_cutAt hcut').mpr hends, hnot⟩

/-- **The linter and the loader agree on what is YAML** where the pathname of a file has no mark
and its name is not odd: exactly the files that the linter takes for YAML have a pathname that
the loader takes for YAML, all of them are linted, and their texts are read as YAML.

For all other pathnames it is said when the two differ.  A mark lets the loader see no more than
what is in front of it, be that a part of a directory; and odd names are YAML for the loader
only. -/
theorem formats_agree (hfs : fs.WellNamed) (hreach : Reaches fs base path) :
    ∃ directory name, Pathname.Within directory name path ∧
      (Format.Unmarked path → ¬OddName name →
        (IsYaml path ↔ Format.ofName path = .yaml) ∧
        (Format.ofName path = .yaml → path ∈ mappingFiles fs base) ∧
        (path ∈ mappingFiles fs base → IsYaml path → ∀ text, fs.readText path = .ok text →
          Source.loadFile fs path = Source.read .yaml text)) ∧
      (IsYaml path ∧ Format.ofName path = .json ↔
        YamlName name ∧ ∃ front, Format.CutAt path front ∧ ¬Format.EndsAsYaml front) ∧
      (Format.ofName path = .yaml ∧ ¬IsYaml path ↔
        Format.Unmarked path ∧ OddName name ∨
          ¬YamlName name ∧ ∃ front, Format.CutAt path front ∧ Format.EndsAsYaml front) := by
  obtain ⟨directory, name, hwithin⟩ := hreach.within hfs
  refine ⟨directory, name, hwithin, fun hunmarked hodd => ?_, isYaml_and_json_iff hwithin,
    yaml_and_not_isYaml_iff hwithin⟩
  have hagree : IsYaml path ↔ Format.ofName path = .yaml := by
    rw [isYaml_iff hwithin, ofName_iff hwithin hunmarked, or_iff_left hodd]
  refine ⟨hagree, fun hyaml => ?_, fun _ hyaml text hread => ?_⟩
  · exact (mem_mappingFiles_iff hfs).mpr ⟨hreach, isMappingFile_of_isYaml (hagree.mpr hyaml)⟩
  · exact loadFile_of_yaml hread (hagree.mp hyaml)

/-- A directory with a mapping in YAML. -/
def mapsIn (directory : String) : FileSystem where
  root := .directory [(directory, .directory
    [("m.yaml", .file "objects: \n- name: id\n  path: user/id\n".toUTF8)])]
  current := []

theorem mapsIn_wellNamed {directory : String} (h : Pathname.IsName directory) :
    (mapsIn directory).WellNamed := by
  intro names hnames name hname
  have hfiles : (mapsIn directory).root.files = [[directory, "m.yaml"]] := rfl
  rw [hfiles, List.mem_singleton] at hnames
  subst hnames
  simp only [List.mem_cons, List.not_mem_nil, or_false] at hname
  obtain rfl | rfl := hname
  · exact h
  · constructor <;> decide

theorem mapsIn_reaches : Reaches (mapsIn "maps") "maps" "maps/m.yaml" :=
  @Reaches.below _ _ _ ["m.yaml"] rfl List.mem_cons_self

theorem maps_agree :
    Reaches (mapsIn "maps") "maps" "maps/m.yaml" ∧ IsYaml "maps/m.yaml" ∧
    "maps/m.yaml" ∈ mappingFiles (mapsIn "maps") "maps" ∧
    Source.loadFile (mapsIn "maps") "maps/m.yaml" =
      Source.read .yaml "objects: \n- name: id\n  path: user/id\n" := by
  have hfs : (mapsIn "maps").WellNamed := mapsIn_wellNamed (by constructor <;> decide)
  obtain ⟨directory, name, hwithin, hplain, -, -⟩ := formats_agree hfs mapsIn_reaches
  have hname : name = "m.yaml" := Option.some_inj.mp (hwithin.fileName?_eq.symm.trans (by decide))
  have hodd : ¬OddName name := fun h =>
    h.not_yamlName ⟨['m'], _, List.cons_ne_nil _ _, List.mem_cons_self, by rw [hname]; rfl⟩
  have hunmarked : Format.Unmarked "maps/m.yaml" := by simp [Format.Unmarked, Format.IsMark]
  obtain ⟨hagree, hlinted, hread⟩ := hplain hunmarked hodd
  have hyaml : IsYaml "maps/m.yaml" := .inl (by decide)
  have hmem := hlinted (hagree.mp hyaml)
  exact ⟨mapsIn_reaches, hyaml, hmem, hread hmem hyaml _ rfl⟩

/-- In a directory with a number sign in its name the same mapping is linted as YAML and read as
JSON. -/
theorem taggedMaps_misread :
    (¬∀ (fs : FileSystem) (base path : String), fs.WellNamed → Reaches fs base path →
      (IsYaml path ↔ Format.ofName path = .yaml)) ∧
    (run (mapsIn "maps") "maps" false).files.map (fun f => f.findings.map Finding.code) = [[]] ∧
    (run (mapsIn "maps#1") "maps#1" false).files.map (fun f => f.findings.map Finding.code) =
      [["E001"]] := by
  refine ⟨fun h => ?_, by decide +kernel, by decide +kernel⟩
  have hagree := h (mapsIn "maps#1") "maps#1" "maps#1/m.yaml"
    (mapsIn_wellNamed (by constructor <;> decide))
    (@Reaches.below _ _ _ ["m.yaml"] rfl List.mem_cons_self)
  have hjson : Format.ofName "maps#1/m.yaml" = .json := by decide
  exact absurd (hagree.mp (.inl (by decide))) (by rw [hjson]; decide)

end Lint

end Reshape
