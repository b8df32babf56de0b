import Mathlib.Data.List.Basic
import RoboticsRuntime.Theory.Dictionary

/-!
# File trees

The files below a directory, with links as leaves: what the system says of paths that lead through
a link, or elsewhere, is an argument.
-/

namespace RoboticsRuntime.Python
open Theory

/-- An absolute path, as its parts. -/
abbrev Path := List String

inductive FileKind where
  | file | link | directory | other
  deriving DecidableEq, Repr

inductive FileTree where
  | file (content : List UInt8)
  | link
  | other
  | directory (entries : List (String × FileTree))

/-- One step of `os.walk`. -/
structure WalkEntry where
  directory : Path
  children : List String
  names : List String

/-- What the system says of the paths that the tree does not decide. -/
structure Outside where
  lstat : Path → Option FileKind
  stat : Path → Option FileKind
  listing : Path → List String
  walk : Path → List WalkEntry
  stat_of_lstat : ∀ path kind, lstat path = some kind → kind ≠ .link → stat path = some kind
  mem_listing : ∀ directory name kind, lstat (directory ++ [name]) = some kind →
    name ∈ listing directory

/-- What a path leads to: a part of the tree, nothing, or a place that the tree does not decide. -/
inductive Located where
  | found (tree : FileTree)
  | missing
  | beyond

namespace FileTree

def kind : FileTree → FileKind
  | file _ => .file
  | link => .link
  | other => .other
  | directory _ => .directory

/-- The parts of a path are looked up one after the other. -/
def locate (tree : FileTree) : Path → Located
  | [] => .found tree
  | name :: rest =>
    match tree with
    | directory entries =>
      match entries.lookup name with
      | some tree => tree.locate rest
      | none => .missing
    | link => .beyond
    | _ => .missing

/-- `entry.is_dir()` of an entry at a path. A link is followed. -/
def isDirectory (outside : Outside) (path : Path) : FileTree → Bool
  | directory _ => true
  | link => outside.stat path = some .directory
  | _ => false

mutual

/-- `os.walk(path, followlinks=False)`. -/
def walk (outside : Outside) (path : Path) : FileTree → List WalkEntry
  | directory entries =>
    let isChild (entry : String × FileTree) := entry.2.isDirectory outside (path ++ [entry.1])
    ⟨path, (entries.filter isChild).map (·.1), (entries.filter (!isChild ·)).map (·.1)⟩ ::
      walkEntries outside path entries
  | _ => []
termination_by structural tree => tree

def walkEntries (outside : Outside) (path : Path) : List (String × FileTree) → List WalkEntry
  | [] => []
  | (name, tree) :: entries => tree.walk outside (path ++ [name]) ++ walkEntries outside path entries
termination_by structural entries => entries

end

end FileTree

/-- A directory with the files below it. -/
structure FileSystem where
  root : Path
  entries : List (String × FileTree)
  outside : Outside

namespace FileSystem

/-- A path below the directory is decided by its tree, unless the path goes back. -/
def locate (fs : FileSystem) (path : Path) : Located :=
  if fs.root <+: path ∧ ".." ∉ path.drop fs.root.length then
    (FileTree.directory fs.entries).locate (path.drop fs.root.length)
  else .beyond

/-- `os.lstat`. -/
def lstat (fs : FileSystem) (path : Path) : Option FileKind :=
  match fs.locate path with
  | .found tree => some tree.kind
  | .missing => none
  | .beyond => fs.outside.lstat path

/-- `os.stat`, which follows links. -/
def stat (fs : FileSystem) (path : Path) : Option FileKind :=
  match fs.locate path with
  | .found .link => fs.outside.stat path
  | .found tree => some tree.kind
  | .missing => none
  | .beyond => fs.outside.stat path

/-- `path.is_symlink()`. -/
def isSymlink (fs : FileSystem) (path : Path) : Bool := fs.lstat path = some .link

/-- `path.exists()`. -/
def exists? (fs : FileSystem) (path : Path) : Bool := (fs.stat path).isSome

/-- `path.is_file()`. -/
def isFile (fs : FileSystem) (path : Path) : Bool := fs.stat path = some .file

/-- `os.scandir`, with no names where it raises. -/
def listing (fs : FileSystem) (path : Path) : List String :=
  match fs.locate path with
  | .found (.directory entries) => entries.map (·.1)
  | .found .link | .beyond => fs.outside.listing path
  | _ => []

/-- `os.walk(path, followlinks=False)`. -/
def walk (fs : FileSystem) (path : Path) : List WalkEntry :=
  match fs.locate path with
  | .found .link | .beyond => fs.outside.walk path
  | .found tree => tree.walk fs.outside path
  | .missing => []

end FileSystem

/-! ## Walks find every file -/

namespace FileTree

variable {outside : Outside} {tree leaf : FileTree} {path rest : Path} {name : String}

theorem walk_subset_walkEntries {entries : List (String × FileTree)} (h : (name, tree) ∈ entries) :
    ∀ entry ∈ tree.walk outside (path ++ [name]), entry ∈ walkEntries outside path entries := by
  induction entries with
  | nil => cases h
  | cons first entries ih =>
    obtain ⟨name', tree'⟩ := first
    intro entry hentry
    rw [walkEntries, List.mem_append]
    rcases List.mem_cons.1 h with he | h
    · cases he
      exact .inl hentry
    · exact .inr (ih h entry hentry)

/-- A path below a directory is listed where the walk passes its parent, among the directories or
among the other names. -/
theorem exists_walk_of_locate (outside : Outside) (path : Path)
    {entries : List (String × FileTree)} {rest : Path} {last : String}
    (h : (directory entries).locate (rest ++ [last]) = .found leaf) :
    ∃ entry ∈ (directory entries).walk outside path,
      entry.directory = path ++ rest ∧
        if leaf.isDirectory outside (path ++ rest ++ [last]) then last ∈ entry.children
        else last ∈ entry.names := by
  induction rest generalizing entries path with
  | nil =>
    refine ⟨_, List.mem_cons_self, (List.append_nil path).symm, ?_⟩
    rw [List.nil_append, locate] at h
    cases hlookup : entries.lookup last with
    | none => simp [hlookup] at h
    | some tree =>
      have hmem := mem_of_lookup hlookup
      obtain rfl : tree = leaf := by simpa [hlookup, locate] using h
      rw [List.append_nil]
      split
      · next hchild => exact List.mem_map.2 ⟨_, List.mem_filter.2 ⟨hmem, hchild⟩, rfl⟩
      · next hother => exact List.mem_map.2 ⟨_, List.mem_filter.2 ⟨hmem, by simpa using hother⟩, rfl⟩
  | cons name rest ih =>
    rw [List.cons_append, locate] at h
    cases hlookup : entries.lookup name with
    | none => simp [hlookup] at h
    | some tree =>
      simp only [hlookup] at h
      have hmem := mem_of_lookup hlookup
      cases tree with
      | directory entries' =>
        obtain ⟨entry, hentry, hdirectory, hlast⟩ := ih (path ++ [name]) h
        rw [List.append_assoc path, List.singleton_append] at hdirectory hlast
        refine ⟨entry, ?_, hdirectory, hlast⟩
        rw [walk]
        exact List.mem_cons_of_mem _ (walk_subset_walkEntries hmem entry hentry)
      | file _ | link | other => cases rest <;> simp [locate] at h

/-- A path that the tree does not decide leads through a link. -/
theorem exists_link_of_beyond (h : tree.locate rest = .beyond) (hlink : tree.kind ≠ .link) :
    ∃ before after, rest = before ++ after ∧ before ≠ [] ∧ after ≠ [] ∧
      tree.locate before = .found link := by
  induction rest generalizing tree with
  | nil => cases h
  | cons name rest ih =>
    cases tree with
    | directory entries =>
      rw [locate] at h
      cases hlookup : entries.lookup name with
      | none => simp [hlookup] at h
      | some tree =>
        simp only [hlookup] at h
        have hstep (before : Path) : (directory entries).locate (name :: before) =
            tree.locate before := by
          simp only [locate, hlookup]
        cases tree with
        | link =>
          cases rest with
          | nil => cases h
          | cons next rest => exact ⟨[name], next :: rest, rfl, by simp, by simp, hstep []⟩
        | directory _ | file _ | other =>
          obtain ⟨before, after, rfl, -, hafter, hlocate⟩ := ih h (by simp [kind])
          exact ⟨name :: before, after, rfl, by simp, hafter, by rw [hstep, hlocate]⟩
    | link => exact absurd rfl hlink
    | file _ | other => cases h

/-- The last step of a path is one more lookup. -/
theorem locate_append (tree : FileTree) (rest : Path) (last : String) :
    tree.locate (rest ++ [last]) =
      match tree.locate rest with
      | .found (directory entries) =>
        match entries.lookup last with
        | some tree => .found tree
        | none => .missing
      | .found link | .beyond => .beyond
      | _ => .missing := by
  induction rest generalizing tree with
  | nil =>
    cases tree with
    | directory _ | file _ | link | other => rfl
  | cons name rest ih =>
    rw [List.cons_append]
    cases tree with
    | directory entries =>
      simp only [locate]
      cases entries.lookup name with
      | none => rfl
      | some tree => exact ih tree
    | file _ | link | other => rfl

/-- What is found through a name and more is found below a directory of that name. -/
theorem locate_cons_eq_found {entries : List (String × FileTree)} {rest : Path} (hrest : rest ≠ [])
    (h : (directory entries).locate (name :: rest) = .found leaf) :
    ∃ entries', (directory entries).locate [name] = .found (directory entries') ∧
      (directory entries').locate rest = .found leaf := by
  simp only [locate] at h ⊢
  cases hlookup : entries.lookup name with
  | none => simp [hlookup] at h
  | some tree =>
    simp only [hlookup] at h
    cases tree with
    | directory entries' => exact ⟨entries', rfl, h⟩
    | file _ | link | other =>
      cases rest with
      | nil => exact absurd rfl hrest
      | cons _ _ => cases h

end FileTree

namespace FileSystem

variable {fs : FileSystem} {path rest : Path} {name : String} {kind : FileKind}

theorem locate_root_append (h : ".." ∉ rest) :
    fs.locate (fs.root ++ rest) = (FileTree.directory fs.entries).locate rest := by
  rw [locate, List.drop_left, if_pos ⟨List.prefix_append _ _, h⟩]

theorem lstat_of_found {tree : FileTree} (h : fs.locate path = .found tree) :
    fs.lstat path = some tree.kind := by
  rw [lstat, h]

theorem isSymlink_eq_false : fs.isSymlink path = false ↔ fs.lstat path ≠ some .link :=
  decide_eq_false_iff_not

/-- Only a link is something else when links are followed. -/
theorem stat_of_lstat (h : fs.lstat path = some kind) (hkind : kind ≠ .link) :
    fs.stat path = some kind := by
  unfold lstat at h
  unfold stat
  cases hlocate : fs.locate path with
  | found tree =>
    simp only [hlocate, Option.some.injEq] at h ⊢
    cases tree with
    | link => exact absurd h.symm hkind
    | file _ | other | directory _ => exact congrArg some h
  | missing => simp [hlocate] at h
  | beyond =>
    simp only [hlocate] at h ⊢
    exact fs.outside.stat_of_lstat path kind h hkind

/-- A directory lists what it holds. -/
theorem mem_listing (hrest : ".." ∉ rest) (hname : name ≠ "..")
    (h : fs.lstat (fs.root ++ rest ++ [name]) = some kind) : name ∈ fs.listing (fs.root ++ rest) := by
  have hforward : ".." ∉ rest ++ [name] := by
    rw [List.mem_append, List.mem_singleton]
    exact fun hm => hm.elim hrest fun he => hname he.symm
  have hparent : fs.locate (fs.root ++ rest) = _ := locate_root_append hrest
  have hlocate : fs.locate (fs.root ++ (rest ++ [name])) = _ := locate_root_append hforward
  rw [← List.append_assoc, FileTree.locate_append, ← hparent] at hlocate
  unfold lstat at h
  unfold listing
  rw [hlocate] at h
  cases hdirectory : fs.locate (fs.root ++ rest) with
  | found tree =>
    rw [hdirectory] at h
    cases tree with
    | directory entries =>
      cases hlookup : entries.lookup name with
      | none => simp [hlookup] at h
      | some tree => exact List.mem_map.2 ⟨_, mem_of_lookup hlookup, rfl⟩
    | link => exact fs.outside.mem_listing _ _ _ h
    | file _ | other => cases h
  | missing =>
    rw [hdirectory] at h
    cases h
  | beyond =>
    rw [hdirectory] at h
    exact fs.outside.mem_listing _ _ _ h

end FileSystem

end RoboticsRuntime.Python
