/-
# What writing a file changes

Writing puts one file into the tree.  Below that file there was nothing before and there is
nothing after, everything beside it is untouched, and the directories above it stay
directories with all their names (`follow?_put`).  So every pathname that led to a directory
still does, along the same names, and the pathname that was written leads to the file.

Main statement: `stores_of_write`.
-/
import Mathlib.Data.List.DropRight
import Reshape.FileSystem
import Reshape.Proofs.Sequence

namespace Reshape

/-! ## 1. Trees -/

/-- Writing a key takes no other away. -/
theorem Entries.contains_insert {α : Type} {es : Entries α} {k c : String} {v : α}
    (h : contains c es = true) : contains c (insert k v es) = true := by
  rw [contains, get?_insert]
  split
  · rfl
  · exact h

namespace FileItem

variable {item : FileItem} {names q : List String} {name : String}
  {es : List (String × FileItem)} {content : ByteArray}

@[simp] theorem follow?_nil : item.follow? [] = some item := rfl

theorem follow?_cons : item.follow? (name :: names) = (item.child? name).bind (follow? names) := by
  rw [follow?, List.foldlM_cons]
  rfl

theorem follow?_append (a b : List String) :
    item.follow? (a ++ b) = (item.follow? a).bind (follow? b) := by
  rw [follow?, List.foldlM_append]
  rfl

theorem child?_put (new : FileItem) (name : String) (names : List String) (item : FileItem) :
    (put new (name :: names) item).child? name =
      some (put new names ((item.child? name).getD emptyDirectory)) := by
  cases item <;> exact (Entries.get?_insert _ _ _ _).trans (if_pos rfl)

theorem follow?_put_self (new : FileItem) (names : List String) (item : FileItem) :
    (put new names item).follow? names = some new := by
  induction names generalizing item with
  | nil => rfl
  | cons name names ih => rw [follow?_cons, child?_put, Option.bind_some, ih]

/-- The same item, or two directories of which the second has all names of the first. -/
inductive Keeps : Option FileItem → Option FileItem → Prop
  | same (o : Option FileItem) : Keeps o o
  | directory {ds ds' : List (String × FileItem)}
      (h : ∀ c, Entries.contains c ds = true → Entries.contains c ds' = true) :
      Keeps (some (.directory ds)) (some (.directory ds'))

/-- Putting a file into a directory, in the place of nothing or of a file, keeps what is
anywhere else. -/
theorem follow?_put (hdir : item.follow? names = some (.directory es))
    (hname : ∀ ds, Entries.get? name es ≠ some (.directory ds)) (hq : q ≠ names ++ [name]) :
    Keeps (item.follow? q) ((put (.file content) (names ++ [name]) item).follow? q) := by
  -- Both runs of names start at the root: they agree for a while, and then one of them ends or
  -- they part.
  induction names generalizing item q with
  | nil =>
    cases hdir
    rw [List.nil_append, put, put]
    cases q with
    | nil => exact .directory fun c hc => Entries.contains_insert hc
    | cons n q =>
      rw [follow?_cons, follow?_cons, child?, child?, Entries.get?_insert]
      by_cases hn : name = n
      · -- Nothing is below the old item and nothing is below the new one.
        subst hn
        have hne : q ≠ [] := fun h => hq (by rw [h]; rfl)
        obtain ⟨m, q, rfl⟩ := List.exists_cons_of_ne_nil hne
        have hold : (Entries.get? name es).bind (follow? (m :: q)) = none := by
          cases hg : Entries.get? name es with
          | none => rfl
          | some old =>
            cases old with
            | file c => rfl
            | directory ds => exact absurd hg (hname ds)
        rw [if_pos rfl, hold]
        exact .same none
      · rw [if_neg hn]
        exact .same _
  | cons n names ih =>
    rw [follow?_cons] at hdir
    obtain ⟨child, hchild, hbelow⟩ := Option.bind_eq_some_iff.mp hdir
    cases item with
    | file c => cases hchild
    | directory top =>
      rw [child?] at hchild
      rw [List.cons_append, put, hchild, Option.getD_some]
      cases q with
      | nil => exact .directory fun c hc => Entries.contains_insert hc
      | cons m q =>
        rw [follow?_cons, follow?_cons, child?, child?, Entries.get?_insert]
        by_cases hm : n = m
        · subst hm
          rw [if_pos rfl, hchild]
          exact ih hbelow fun h => hq (by rw [h]; rfl)
        · rw [if_neg hm]
          exact .same _

end FileItem

namespace FileSystem

open FileItem

variable {fs fs' : FileSystem} {path text : String}

/-! ## 2. Pathnames -/

theorem readText_of_file {names : List String} (hlocate : fs.locate path = .ok names)
    (hfile : fs.root.follow? names = some (.file text.toUTF8)) : fs.readText path = .ok text := by
  rw [readText, hlocate]
  dsimp only
  rw [hfile]
  dsimp only
  rw [Text.ofBytes?_toUTF8]

/-- Only what is there can be read. -/
theorem contains_of_readText (h : fs.readText path = .ok text) : fs.contains path = true := by
  rw [readText] at h
  rw [contains, find?]
  split at h
  · cases h
  · next names hlocate =>
    rw [hlocate]
    dsimp only
    split at h
    · next hfile => rw [hfile]; rfl
    · cases h
    · cases h

/-- Every directory of a file system is one of another, with all its names. -/
def KeepsDirectories (fs fs' : FileSystem) : Prop :=
  ∀ names ds, fs.root.follow? names = some (.directory ds) →
    ∃ ds', fs'.root.follow? names = some (.directory ds') ∧
      ∀ c, Entries.contains c ds = true → Entries.contains c ds' = true

theorem KeepsDirectories.walk (h : KeepsDirectories fs fs') {names reached : List String}
    {component : String} (hw : fs.walk names component = .ok reached) :
    fs'.walk names component = .ok reached := by
  rw [FileSystem.walk] at hw
  split at hw
  · next ds hd =>
    obtain ⟨ds', hd', hc⟩ := h names ds hd
    rw [FileSystem.walk, hd']
    dsimp only
    split at hw
    · next hstay => rw [if_pos hstay]; exact hw
    · next hstay =>
      rw [if_neg hstay]
      split at hw
      · next hup => rw [if_pos hup]; exact hw
      · next hup =>
        rw [if_neg hup]
        split at hw
        · next hin => rw [if_pos (hc _ hin)]; exact hw
        · cases hw
  · cases hw
  · cases hw

theorem KeepsDirectories.foldlM_walk (h : KeepsDirectories fs fs') {front names : List String}
    {start : List String} (hw : front.foldlM fs.walk start = .ok names) :
    front.foldlM fs'.walk start = .ok names := by
  induction front generalizing start with
  | nil => exact hw
  | cons component front ih =>
    rw [List.foldlM_cons] at hw ⊢
    cases hstep : fs.walk start component with
    | error fault => rw [hstep] at hw; cases hw
    | ok reached =>
      rw [hstep] at hw
      rw [h.walk hstep]
      exact ih hw

theorem splitLast_append (path : String) :
    (splitLast path).1 ++ (splitLast path).2 = Text.split '/' path := by
  have hprefix : ((Text.split '/' path).rdropWhile (· == "")).dropLast <+: Text.split '/' path :=
    (List.dropLast_prefix _).trans (List.rdropWhile_prefix _ _)
  exact List.prefix_iff_eq_append.mp hprefix

/-! ## 3. Writing -/

/-- Where a pathname would put a file: under a name, which no directory has, in a directory that
is there. -/
structure Place (fs : FileSystem) (path : String) where
  front : List String
  name : String
  names : List String
  entries : List (String × FileItem)
  parts : Text.split '/' path = front ++ [name]
  reached : front.foldlM fs.walk (fs.start path) = .ok names
  directory : fs.root.follow? names = some (.directory entries)
  named : endsWithName [name] = true
  free : ∀ ds, Entries.get? name entries ≠ some (.directory ds)

namespace Place

variable (p : Place fs path)

/-- The names that lead to the file. -/
def target : List String := p.names ++ [p.name]

/-- The file system with a text in that place. -/
def fill (text : String) : FileSystem :=
  { fs with root := put (.file text.toUTF8) p.target fs.root }

theorem name_ne : ¬(p.name == "" || p.name == ".") = true ∧ ¬(p.name == "..") = true := by
  have h := p.named
  simp only [endsWithName, List.getLast?_singleton, Bool.not_eq_true', Bool.or_eq_false_iff] at h
  simp [h]

theorem follow?_target : (p.fill text).root.follow? p.target = some (.file text.toUTF8) :=
  follow?_put_self _ _ _

theorem keeps {q : List String} (hq : q ≠ p.target) :
    Keeps (fs.root.follow? q) ((p.fill text).root.follow? q) :=
  follow?_put p.directory p.free hq

theorem keepsDirectories : KeepsDirectories fs (p.fill text) := by
  intro q ds hds
  -- A directory cannot have been where the file is now.
  have hq : q ≠ p.target := by
    rintro rfl
    rw [target, follow?_append, p.directory, Option.bind_some, follow?_cons] at hds
    obtain ⟨old, hold, hds⟩ := Option.bind_eq_some_iff.mp hds
    cases hds
    exact p.free ds hold
  have hkeeps : Keeps _ ((p.fill text).root.follow? q) := p.keeps hq
  rw [hds] at hkeeps
  generalize hnew : (p.fill text).root.follow? q = new at hkeeps
  cases hkeeps with
  | same => exact ⟨ds, rfl, fun c hc => hc⟩
  | directory h => exact ⟨_, rfl, h⟩

/-- The pathname leads to the file, now that it is there. -/
theorem locate_fill (hne : path ≠ "") : (p.fill text).locate path = .ok p.target := by
  have hreached : p.front.foldlM (p.fill text).walk ((p.fill text).start path) = .ok p.names :=
    p.keepsDirectories.foldlM_walk p.reached
  obtain ⟨ds, hds, -⟩ : ∃ ds, (p.fill text).root.follow? p.names = some (.directory ds) ∧ _ :=
    p.keepsDirectories _ _ p.directory
  have hin : Entries.contains p.name ds = true := by
    have hself : (p.fill text).root.follow? p.target = some (.file text.toUTF8) := p.follow?_target
    rw [target, follow?_append, hds, Option.bind_some, follow?_cons] at hself
    obtain ⟨file, hfile, -⟩ := Option.bind_eq_some_iff.mp hself
    rw [Entries.contains, show Entries.get? p.name ds = some file from hfile]
    rfl
  have hlast : (p.fill text).walk p.names p.name = .ok p.target := by
    rw [walk, hds]
    dsimp only
    rw [if_neg p.name_ne.1, if_neg p.name_ne.2, if_pos hin]
    rfl
  rw [locate, if_neg hne, p.parts, List.foldlM_append, hreached]
  change [p.name].foldlM (p.fill text).walk p.names = .ok p.target
  rw [List.foldlM_cons, hlast]
  rfl

end Place

theorem exists_place_of_write (h : fs.write path text = .ok fs') :
    path ≠ "" ∧ ∃ p : Place fs path, fs' = p.fill text := by
  rw [write] at h
  split at h
  · cases h
  · next hne =>
    have hparts := splitLast_append path
    generalize splitLast path = cut at h hparts
    obtain ⟨front, last⟩ := cut
    obtain ⟨names, hreached, h⟩ := Result.bind_eq_ok.mp h
    split at h
    · next es name hdir _ =>
      split at h
      · cases h
      · next hnamed =>
        split at h
        · cases h
        · next hfree =>
          cases h
          have hnamed : endsWithName [name] = true := by simpa using hnamed
          exact ⟨hne, ⟨front, name, names, es, hparts.symm, hreached, hdir, hnamed, hfree⟩, rfl⟩
    · cases h
    · cases h
    · cases h

/-- What a file system has become by writing a text: the pathname leads to a file with the text,
and every other file is what it was. -/
structure Stores (fs : FileSystem) (path text : String) (fs' : FileSystem) : Prop where
  reads : fs'.readText path = .ok text
  others : ∃ target, fs'.locate path = .ok target ∧ ∀ names, names ≠ target → ∀ content,
    fs'.root.follow? names = some (.file content) ↔ fs.root.follow? names = some (.file content)
  current : fs'.current = fs.current

/-- **Writing stores a text**, and changes no other file. -/
theorem stores_of_write (h : fs.write path text = .ok fs') : Stores fs path text fs' := by
  obtain ⟨hne, p, rfl⟩ := exists_place_of_write h
  have hlocate : (p.fill text).locate path = .ok p.target := p.locate_fill hne
  refine ⟨readText_of_file hlocate p.follow?_target,
    ⟨p.target, hlocate, fun names hnames content => ?_⟩, rfl⟩
  have hkeeps : Keeps _ ((p.fill text).root.follow? names) := p.keeps hnames
  generalize (p.fill text).root.follow? names = new at hkeeps
  generalize fs.root.follow? names = old at hkeeps
  cases hkeeps with
  | same => exact .rfl
  | directory h => simp

end FileSystem

end Reshape
