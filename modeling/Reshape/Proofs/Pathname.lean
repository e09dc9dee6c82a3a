/-
# The directory and the name of a pathname

A pathname that leads to a file is a directory, which is nothing or ends with a slash, with the
name of the file behind it (`within_of_find?`).  What `Pathname.fileName?` and
`Pathname.extension?` find there is a matter of the name alone.
-/
import Mathlib.Data.List.Basic
import Reshape.FileSystem
import Reshape.Pathname
import Reshape.Proofs.FileSystem

namespace Reshape

/-! ## 1. Parts -/

namespace Text

variable {sep : Char}

theorem joinChars_concat {ps : List (List Char)} (h : ps ≠ []) (p : List Char) :
    joinChars sep (ps ++ [p]) = joinChars sep ps ++ sep :: p := by
  induction ps with
  | nil => exact absurd rfl h
  | cons q ps ih =>
    cases ps with
    | nil => rfl
    | cons r ps =>
      have hrest : r :: ps ++ [p] ≠ [] := by simp
      have hne : r :: ps ≠ [] := by simp
      rw [List.cons_append, joinChars_cons hrest, ih hne, joinChars_cons hne, List.append_assoc]
      rfl

/-- The only text with nothing in front of, between and behind its separators is the empty one. -/
theorem splitChars_eq_singleton_nil {cs : List Char} : splitChars sep cs = [[]] ↔ cs = [] := by
  constructor
  · intro h
    have hjoin : joinChars sep (splitChars sep cs) = cs := joinChars_splitChars cs
    rw [h] at hjoin
    exact hjoin.symm
  · rintro rfl
    rfl

end Text

namespace Pathname

variable {directory name path : String}

/-- A name that a file may have. -/
structure IsName (name : String) : Prop where
  slash : '/' ∉ name.toList
  ne_empty : name ≠ ""
  ne_dot : name ≠ "."
  ne_dots : name ≠ ".."

/-- A pathname is a name in a directory. -/
structure Within (directory name path : String) : Prop where
  eq : path = directory ++ name
  directory : directory = "" ∨ ∃ d, directory = d ++ "/"
  isName : IsName name

theorem IsName.isIdle (h : IsName name) : isIdle name = false := by
  simp [Pathname.isIdle, h.ne_empty, h.ne_dot]

theorem IsName.within (h : IsName name) : Within "" name name :=
  ⟨String.empty_append.symm, .inl rfl, h⟩

theorem within_join (h : IsName name) (directory : String) :
    ∃ d, Within d name (join directory name) := by
  rw [join]
  split
  · next hd =>
    simp only [Bool.or_eq_true, decide_eq_true_eq] at hd
    refine ⟨directory, rfl, hd.imp_right fun hlast => ?_, h⟩
    obtain ⟨front, hfront⟩ := List.getLast?_eq_some_iff.mp hlast
    exact ⟨String.ofList front, String.toList_inj.mp (by simp [hfront])⟩
  · exact ⟨directory ++ "/", rfl, .inr ⟨directory, rfl⟩, h⟩

/-- Names behind a directory end with a name in a directory. -/
theorem within_foldl_join (names : List String) {last : String} (h : IsName last)
    (directory : String) : ∃ d, Within d last ((names ++ [last]).foldl join directory) := by
  rw [List.foldl_append]
  exact within_join h _

namespace Within

variable (h : Within directory name path)

include h

theorem split_eq : ∃ front, Text.split '/' path = front ++ [name] := by
  have hname : Text.split '/' name = [name] := by
    simp [Text.split, Text.splitChars_of_not_mem h.isName.slash]
  obtain hd | ⟨d, hd⟩ := h.directory
  · exact ⟨[], by rw [h.eq, hd, String.empty_append, hname]; rfl⟩
  · refine ⟨Text.split '/' d, ?_⟩
    rw [h.eq, hd, ← hname]
    exact Text.split_append d name

/-- The name is the last of the parts, and it counts. -/
theorem parts_eq : ∃ front, parts path = front ++ [(name, true)] := by
  obtain ⟨front, hsplit⟩ := h.split_eq
  rw [parts, hsplit]
  cases front with
  | nil => exact ⟨[], by simp [h.isName.ne_empty]⟩
  | cons first front =>
    rw [List.cons_append]
    dsimp only
    rw [List.map_append, List.map_singleton, h.isName.isIdle]
    exact ⟨_ :: _, rfl⟩

theorem fileName?_eq : fileName? path = some name := by
  obtain ⟨front, hparts⟩ := h.parts_eq
  rw [fileName?, components, hparts]
  simp [h.isName.ne_empty, h.isName.ne_dot, h.isName.ne_dots]

theorem extension?_eq : extension? path = extensionOf? name := by
  rw [extension?, h.fileName?_eq, Option.bind_some]

end Within

/-! ## 2. Extensions -/

theorem extensionOf?_of_not_mem (h : '.' ∉ name.toList) : extensionOf? name = none := by
  rw [extensionOf?, Text.splitChars_of_not_mem h]

/-- What is behind the last dot is an extension if something is in front of that dot. -/
theorem extensionOf?_append {stem e : List Char} (hname : name.toList = stem ++ '.' :: e)
    (he : '.' ∉ e) :
    extensionOf? name = if stem = [] then none else some (String.ofList e) := by
  rw [extensionOf?, hname, Text.splitChars_append, Text.splitChars_of_not_mem he]
  have hstem : Text.splitChars '.' stem = [[]] ↔ stem = [] := Text.splitChars_eq_singleton_nil
  cases hs : Text.splitChars '.' stem with
  | nil => exact absurd hs (Text.splitChars_ne_nil stem)
  | cons first rest =>
    rw [hs] at hstem
    cases rest with
    | nil => cases first <;> simp_all
    | cons second rest =>
      have hne : stem ≠ [] := fun h => by simpa using hstem.mpr h
      have hlast : (second :: (rest ++ [e])).getLast? = some e :=
        List.getLast?_concat (l := second :: rest)
      simp [hne, hlast]

theorem extensionOf?_eq_some_iff {e : String} : extensionOf? name = some e ↔
    '.' ∉ e.toList ∧ ∃ stem, stem ≠ [] ∧ name.toList = stem ++ '.' :: e.toList := by
  constructor
  · intro h
    by_cases hdot : '.' ∈ name.toList
    · -- the last dot is the first one from behind
      obtain ⟨back, stem, hrev, hback⟩ := List.eq_append_cons_of_mem (List.mem_reverse.mpr hdot)
      have hname : name.toList = stem.reverse ++ '.' :: back.reverse := by
        rw [← List.reverse_reverse name.toList, hrev]
        simp
      have hback : '.' ∉ back.reverse := fun h => hback (List.mem_reverse.mp h)
      rw [extensionOf?_append hname hback] at h
      split at h
      · cases h
      · next hne =>
        cases h
        exact ⟨by simpa using hback, stem.reverse, hne, by simpa using hname⟩
    · rw [extensionOf?_of_not_mem hdot] at h
      cases h
  · rintro ⟨he, stem, hne, hname⟩
    rw [extensionOf?_append hname he, if_neg hne, String.ofList_toList]

end Pathname

/-! ## 3. Pathnames of files -/

namespace FileItem

variable {item found : FileItem} {names : List String}

/-- What lies in front of something is a directory. -/
theorem follow?_dropLast (h : item.follow? names = some found) (hdir : found.isDirectory = true) :
    ∃ es, item.follow? names.dropLast = some (.directory es) := by
  cases names using List.reverseRecOn with
  | nil =>
    cases h
    cases item with
    | file => cases hdir
    | directory es => exact ⟨es, rfl⟩
  | append_singleton front last =>
    rw [follow?_append] at h
    obtain ⟨parent, hparent, hchild⟩ := Option.bind_eq_some_iff.mp h
    rw [List.dropLast_concat, hparent]
    cases parent with
    | file => cases hchild
    | directory es => exact ⟨es, rfl⟩

theorem mem_filesOf {es : List (String × FileItem)} :
    names ∈ filesOf es ↔ ∃ name item, (name, item) ∈ es ∧ ∃ q ∈ item.files, names = name :: q := by
  induction es with
  | nil => simp [filesOf]
  | cons e es ih =>
    obtain ⟨name, item⟩ := e
    rw [filesOf, List.mem_append, ih, List.mem_map]
    simp only [List.mem_cons, Prod.mk.injEq]
    constructor
    · rintro (⟨q, hq, rfl⟩ | ⟨n, i, hi, hq⟩)
      · exact ⟨name, item, .inl ⟨rfl, rfl⟩, q, hq, rfl⟩
      · exact ⟨n, i, .inr hi, hq⟩
    · rintro ⟨n, i, ⟨rfl, rfl⟩ | hi, q, hq, rfl⟩
      · exact .inl ⟨q, hq, rfl⟩
      · exact .inr ⟨n, i, hi, q, hq, rfl⟩

/-- The files below something are files of the whole. -/
theorem append_mem_files {q : List String} (h : item.follow? names = some found)
    (hq : q ∈ found.files) : names ++ q ∈ item.files := by
  induction names generalizing item with
  | nil =>
    cases h
    exact hq
  | cons name names ih =>
    rw [follow?_cons] at h
    obtain ⟨child, hchild, hbelow⟩ := Option.bind_eq_some_iff.mp h
    cases item with
    | file => cases hchild
    | directory es =>
      exact mem_filesOf.mpr ⟨name, child, Entries.mem_of_get? hchild, _, ih hbelow, rfl⟩

end FileItem

namespace FileSystem

open FileItem Pathname

variable {fs : FileSystem} {path : String}

/-- Every file and every directory on the way to one has a name. -/
def WellNamed (fs : FileSystem) : Prop :=
  ∀ names ∈ fs.root.files, ∀ name ∈ names, IsName name

theorem WellNamed.isName {es : List (String × FileItem)} {names : List String}
    (hfs : fs.WellNamed) (h : fs.find? path = some (.directory es)) (hn : names ∈ filesOf es) :
    ∀ name ∈ names, IsName name := by
  rw [find?] at h
  split at h
  · next place _ =>
    intro name hname
    exact hfs _ (append_mem_files h hn) name (List.mem_append_right _ hname)
  · cases h

/-- A component that leads to a file is the name of that file. -/
theorem isName_of_walk {names reached : List String} {component : String} {content : ByteArray}
    (hw : fs.walk names component = .ok reached)
    (hfile : fs.root.follow? reached = some (.file content)) (hslash : '/' ∉ component.toList) :
    IsName component := by
  rw [walk] at hw
  split at hw
  · next es hdir =>
    split at hw
    · -- the directory itself is no file
      cases hw
      rw [hdir] at hfile
      cases hfile
    · next hstay =>
      split at hw
      · -- and neither is the one above it
        cases hw
        obtain ⟨above, habove⟩ := follow?_dropLast hdir rfl
        rw [habove] at hfile
        cases hfile
      · next hup =>
        simp only [Bool.or_eq_true, beq_iff_eq, not_or] at hstay hup
        exact ⟨hslash, hstay.1, hstay.2, hup⟩
  · cases hw
  · cases hw

/-- **A pathname that leads to a file** is a name in a directory. -/
theorem within_of_find? {content : ByteArray} (h : fs.find? path = some (.file content)) :
    ∃ directory name, Within directory name path := by
  rw [find?] at h
  split at h
  · next reached hlocate =>
    rw [locate] at hlocate
    split at hlocate
    · cases hlocate
    · obtain ⟨front, last, hsplit⟩ :=
        (List.eq_nil_or_concat' (Text.split '/' path)).resolve_left (Text.split_ne_nil path)
      rw [hsplit, List.foldlM_append] at hlocate
      obtain ⟨names, -, hlast⟩ := Result.bind_eq_ok.mp hlocate
      rw [List.foldlM_cons] at hlast
      obtain ⟨r, hwalk, hr⟩ := Result.bind_eq_ok.mp hlast
      cases hr
      have hslash : '/' ∉ last.toList :=
        Text.not_mem_of_mem_split (s := path) (by rw [hsplit]; simp)
      have hname : IsName last := isName_of_walk hwalk h hslash
      have hpath : Text.join '/' (Text.split '/' path) = path := Text.join_split path
      rw [hsplit] at hpath
      cases hfront : front with
      | nil =>
        refine ⟨"", last, ?_, .inl rfl, hname⟩
        rw [← hpath, hfront, String.empty_append]
        simp [Text.join, Text.joinChars]
      | cons first rest =>
        refine ⟨Text.join '/' front ++ "/", last, ?_, .inr ⟨_, rfl⟩, hname⟩
        rw [← hpath, Text.join, List.map_append, List.map_singleton,
          Text.joinChars_concat (by simp [hfront])]
        apply String.toList_inj.mp
        simp [Text.join]
  · cases h

end FileSystem

end Reshape
