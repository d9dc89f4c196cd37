import OpaqueC.FileTree.Basic
import OpaqueC.Proofs.FileTree.Path

/-!
# Directories and writable paths

Whether a path can be written, and where it leads, is decided by the directories of a tree.
A written file neither makes a directory nor removes one, so it changes this for no path.

## Main definitions

* `FileTree.directory?`: the directory that a path denotes;
* `FileTree.SameDirectories`: trees that differ in their files only.

## Main results

* `FileTree.SameDirectories.writable_eq_ok_iff`: in trees that differ in their files only, the
  same paths can be written;
* `FileTree.sameDirectories_insert`: a written file leaves the directories as they are;
* `FileTree.writable_join`: a file below a directory is a child of it.
-/

namespace OpaqueC.FileTree

/-- Where the walk along a path begins. -/
def start (t : FileTree) (path : String) : Location :=
  if Path.isAbsolute path then [] else t.workingDirectory

/-- The directory that a path denotes. The empty path denotes the working directory, as it
does in front of a joined name. -/
def directory? (t : FileTree) (path : String) : Option Location :=
  (t.walk (t.start path) (Path.names path)).toOption

variable {t t' : FileTree} {path name : String} {dir l : Location}

theorem locate_eq_child_iff :
    t.locate path = .ok (.child dir name) ↔
      ('\x00' ∉ path.toList ∧ path ≠ "" ∧ path.utf8ByteSize ≤ pathLimit) ∧
        t.walk (t.start path) (Path.names path).dropLast = .ok dir ∧
        (Path.names path).getLast? = some name ∧ name ≠ "." ∧ name ≠ ".." := by
  unfold locate
  simp only [bind, Except.bind, throw, throwThe, MonadExceptOf.throw, pure, Except.pure]
  by_cases hnul : '\x00' ∈ path.toList
  · simp [hnul]
  by_cases hempty : path = ""
  · simp [hempty]
  by_cases hlong : pathLimit < path.utf8ByteSize
  · simp [hnul, hempty, hlong, Nat.not_le.mpr hlong]
  -- The path is well formed, so its place is decided by the walk and the last name.
  have hshort : path.utf8ByteSize ≤ pathLimit := Nat.not_lt.mp hlong
  simp only [start, hnul, hempty, hlong, hshort, List.contains_iff_mem, String.isEmpty_iff,
    if_false, not_false_eq_true, ne_eq, and_self, true_and]
  cases t.walk (if Path.isAbsolute path = true then [] else t.workingDirectory)
      (Path.names path).dropLast with
  | error e => simp
  | ok reached =>
    simp only [Except.ok.injEq]
    split <;> grind

theorem writable_eq_ok_iff :
    t.writable path = .ok l ↔ ∃ dir name, t.locate path = .ok (.child dir name) ∧
      Path.endsInSlash path = false ∧ name.utf8ByteSize ≤ nameLimit ∧
      t.get? (dir ++ [name]) ≠ some .directory ∧ dir ++ [name] = l := by
  unfold writable
  simp only [bind, Except.bind, throw, throwThe, MonadExceptOf.throw, pure, Except.pure]
  cases t.locate path with
  | error e => simp
  | ok place =>
    cases place with
    | self => simp
    | child dir name =>
      simp
      grind

/-! ### Trees that differ in their files -/

/-- Trees with the same directories and the same working directory. -/
structure SameDirectories (t t' : FileTree) : Prop where
  workingDirectory_eq : t'.workingDirectory = t.workingDirectory
  get?_eq_directory_iff : ∀ l, t'.get? l = some .directory ↔ t.get? l = some .directory

namespace SameDirectories

theorem enter_eq_ok_iff (h : SameDirectories t t') :
    t'.enter dir name = .ok l ↔ t.enter dir name = .ok l := by
  -- A step enters a directory or fails; a file where one is needed is as bad as nothing.
  have hdir := h.get?_eq_directory_iff (dir ++ [name])
  unfold enter
  grind

theorem walk_eq_ok_iff (h : SameDirectories t t') (names : List String) :
    t'.walk dir names = .ok l ↔ t.walk dir names = .ok l := by
  unfold walk
  induction names generalizing dir with
  | nil => rfl
  | cons name names ih =>
    rw [List.foldlM_cons, List.foldlM_cons]
    -- Both walks enter the same directory or stop here, maybe for different reasons.
    cases hfirst : t.enter dir name with
    | ok first =>
      rw [h.enter_eq_ok_iff.mpr hfirst]
      exact ih
    | error e =>
      cases hfirst' : t'.enter dir name with
      | ok first =>
        rw [h.enter_eq_ok_iff.mp hfirst'] at hfirst
        cases hfirst
      | error e' => simp [bind, Except.bind]

theorem start_eq (h : SameDirectories t t') (path : String) : t'.start path = t.start path := by
  rw [start, start, h.workingDirectory_eq]

/-- In trees that differ in their files only, a path can be written in both or in none, and
leads to the same location. -/
theorem writable_eq_ok_iff (h : SameDirectories t t') :
    t'.writable path = .ok l ↔ t.writable path = .ok l := by
  simp only [FileTree.writable_eq_ok_iff, locate_eq_child_iff, h.start_eq, h.walk_eq_ok_iff,
    ne_eq, h.get?_eq_directory_iff]

end SameDirectories

theorem ne_nil_of_writable (h : t.writable path = .ok l) : l ≠ [] := by
  obtain ⟨dir, name, -, -, -, -, rfl⟩ := writable_eq_ok_iff.mp h
  simp

theorem get?_ne_directory_of_writable (h : t.writable path = .ok l) :
    t.get? l ≠ some .directory := by
  obtain ⟨dir, name, -, -, -, hdir, rfl⟩ := writable_eq_ok_iff.mp h
  exact hdir

/-- A file where a path allows one leaves the directories as they are. -/
theorem sameDirectories_insert (h : t.writable path = .ok l) (content : ByteArray) :
    SameDirectories t (t.insert l (.file content)) where
  workingDirectory_eq := rfl
  get?_eq_directory_iff other := by
    by_cases hother : other = l
    · subst hother
      rw [get?_insert_self t _ (ne_nil_of_writable h)]
      simp [get?_ne_directory_of_writable h]
    · rw [get?_insert_of_ne t _ hother]

/-! ### Files below a directory -/

/-- A file that can be written below a directory is a child of it. -/
theorem writable_join (hname : Path.IsFileName name)
    (h : t.writable (Path.join path name) = .ok l) :
    ∃ dir, t.directory? path = some dir ∧ l = dir ++ [name] := by
  obtain ⟨dir, last, hlocate, -, -, -, rfl⟩ := writable_eq_ok_iff.mp h
  obtain ⟨-, hwalk, hlast, -, -⟩ := locate_eq_child_iff.mp hlocate
  -- The walk is along the names of the directory, and the last name is that of the file.
  rw [Path.names_join hname, List.dropLast_concat] at hwalk
  rw [Path.names_join hname, List.getLast?_concat, Option.some.injEq] at hlast
  have hstart : t.start (Path.join path name) = t.start path := by
    rw [start, start, Path.isAbsolute_join hname]
  rw [hstart] at hwalk
  refine ⟨dir, ?_, by rw [hlast]⟩
  rw [directory?, hwalk]
  rfl

end OpaqueC.FileTree
