import OpaqueC.Proofs.Generation.Completed
import OpaqueC.Proofs.Generation.Lockstep

/-!
# Where a run writes

A run writes below its output directory only if the names of its classes allow it. The name of a
class becomes part of a path before it is checked, and a name with slashes leads anywhere. The
files of all other classes are children of the output directory, those of classes with an invalid
name included.

A tree alone does not tell which files were overwritten with what they held before. So runs are
followed on a tree with a journal.

## Main definitions

* `JournaledTree`: a file tree that records where it was written to;
* `writtenBy`: the locations that a run writes to;
* `FileTree.IsChildOf`: the locations just below the directory that a path denotes.

## Main results

* `written_below_output_without_slash`: what a run writes, and where;
* `not_forall_written_below_output`: a class name with slashes leads out of the directory.
-/

namespace OpaqueC

/-- A file tree with the locations of the files that were created or overwritten, in order. -/
structure JournaledTree where
  /-- The directories and files. -/
  tree : FileTree
  /-- Where files were written. -/
  written : List Location

namespace JournaledTree

/-- A write that succeeds is recorded. -/
def write (j : JournaledTree) (path : String) (content : ByteArray) :
    Except FileError JournaledTree :=
  (j.tree.writable path).map fun l =>
    { tree := j.tree.insert l (.file content), written := j.written ++ [l] }

/-- A journaled tree as a disk. -/
instance : Disk (StateM JournaledTree) where
  read path := do return (← get).tree.read path
  write path content := modifyGet fun j =>
    match j.write path content.toUTF8 with
    | .ok j' => (.ok (), j')
    | .error e => (.error e, j)
  createDirectories path := modifyGet fun j =>
    let (tree, result) := j.tree.createDirectories path
    (result, { j with tree })

theorem run_write (j : JournaledTree) (path content : String) :
    (Disk.write path content : StateM JournaledTree _).run j =
      match j.write path content.toUTF8 with
      | .ok j' => (.ok (), j')
      | .error cause => (.error cause, j) := rfl

end JournaledTree

/-- Where a run creates or overwrites files, however it ends. -/
def writtenBy (k : Catalog) (o : Options) (dir : String) (t : FileTree) : List Location :=
  ((generate (m := StateM JournaledTree) k o dir).run ⟨t, []⟩).2.written

/-- A location just below the directory that a path denotes. -/
def FileTree.IsChildOf (t : FileTree) (dir : String) (l : Location) : Prop :=
  ∃ location name, t.directory? dir = some location ∧ l = location ++ [name]

/-- A journaled tree and a plain one after the same writes to the tree `t`: what was written is
allowed by `P`, and what was not written is as it was. -/
structure Journaled (t : FileTree) (P : Location → Prop) (j : JournaledTree) (plain : FileTree) :
    Prop where
  tree_eq : j.tree = plain
  place?_eq : place? plain = place? t
  allowed : ∀ l ∈ j.written, P l
  get?_eq : ∀ l ∉ j.written, plain.get? l = t.get? l

/-- A write to a place that `P` allows keeps the journal, and is the same with it or without. -/
theorem Journaled.writesInLockstep {t : FileTree} {P : Location → Prop} {path : String}
    (hP : ∀ l, t.writable path = .ok l → P l) : WritesInLockstep (Journaled t P) path := by
  rintro content j _ ⟨rfl, hplace, hallowed, hsame⟩
  rw [JournaledTree.run_write, FileTree.run_write, JournaledTree.write, FileTree.write]
  cases hwritable : j.tree.writable path with
  | error cause => exact ⟨rfl, rfl, hplace, hallowed, hsame⟩
  | ok l =>
    have hstored := FileTree.stored_insert hwritable content
    -- The path is allowed by the tree as it is now, hence by the tree at the start.
    have hl : t.writable path = .ok l := by
      rw [← FileTree.place?_eq_some_iff, ← hplace, FileTree.place?_eq_some_iff, hwritable]
    refine ⟨rfl, rfl, hstored.place?_eq.trans hplace, ?_, ?_⟩
    · exact List.forall_mem_append.mpr ⟨hallowed, List.forall_mem_singleton.mpr (hP l hl)⟩
    · intro other hother
      change other ∉ j.written ++ [l] at hother
      rw [List.mem_append, not_or, List.mem_singleton] at hother
      refine Eq.trans ?_ (hsame other hother.1)
      exact FileTree.get?_insert_of_ne j.tree _ hother.2

/-- A run only writes files of selected classes, where their paths lead, and a file of a class
without a slash in its name is written just below the output directory. What a run does not write
it does not change, and it ends in the same way with the journal as without. -/
theorem written_below_output_without_slash (k : Catalog) (o : Options) (dir : String)
    (t : FileTree) :
    (∀ l ∈ writtenBy k o dir t, ∃ classes, k.selected o = .ok classes ∧ ∃ c ∈ classes,
      (t.writable (c.headerPath dir) = .ok l ∨ t.writable (c.sourcePath dir) = .ok l) ∧
      ('/' ∉ c.name.toList → t.IsChildOf dir l)) ∧
    (∀ l ∉ writtenBy k o dir t,
      ((generate (m := StateM FileTree) k o dir).run t).2.get? l = t.get? l) ∧
    ((generate (m := StateM JournaledTree) k o dir).run ⟨t, []⟩).1 =
      ((generate (m := StateM FileTree) k o dir).run t).1 ∧
    ((generate (m := StateM JournaledTree) k o dir).run ⟨t, []⟩).2.tree =
      ((generate (m := StateM FileTree) k o dir).run t).2 := by
  let P : Location → Prop := fun l => ∃ classes, k.selected o = .ok classes ∧ ∃ c ∈ classes,
    (t.writable (c.headerPath dir) = .ok l ∨ t.writable (c.sourcePath dir) = .ok l) ∧
    ('/' ∉ c.name.toList → t.IsChildOf dir l)
  have hwrite : ∀ classes, k.selected o = .ok classes → ∀ c ∈ classes,
      WritesInLockstep (Journaled t P) (c.headerPath dir) ∧
        WritesInLockstep (Journaled t P) (c.sourcePath dir) := by
    intro classes hselected c hc
    refine ⟨Journaled.writesInLockstep fun l hl => ?_, Journaled.writesInLockstep fun l hl => ?_⟩
    · refine ⟨classes, hselected, c, hc, .inl hl, fun hslash => ?_⟩
      obtain ⟨location, hdir, rfl⟩ :=
        FileTree.writable_join (Class.isFileName_headerFile hslash) hl
      exact ⟨location, _, hdir, rfl⟩
    · refine ⟨classes, hselected, c, hc, .inr hl, fun hslash => ?_⟩
      obtain ⟨location, hdir, rfl⟩ :=
        FileTree.writable_join (Class.isFileName_sourceFile hslash) hl
      exact ⟨location, _, hdir, rfl⟩
  have hstart : Journaled t P ⟨t, []⟩ t :=
    ⟨rfl, rfl, fun _ h => absurd h List.not_mem_nil, fun _ _ => rfl⟩
  obtain ⟨hresult, hend⟩ := lockstep_generate hwrite ⟨t, []⟩ t hstart
  exact ⟨hend.allowed, hend.get?_eq, hresult, hend.tree_eq⟩

/-- A class whose name is no identifier and has no slash. -/
def spacedCatalog : Catalog :=
  ⟨[⟨"Foo Bar", [{ name := "A", kind := .scalar, typeName? := some "int" }]⟩]⟩

/-- The class is rejected, with its files begun in the output directory. -/
theorem spacedCatalog_written_below_output :
    writtenBy spacedCatalog {} "gen" outputTree =
        [["work", "gen", "Foo Bar.h"], ["work", "gen", "Foo Bar.c"]] ∧
      ∀ l ∈ writtenBy spacedCatalog {} "gen" outputTree, outputTree.IsChildOf "gen" l := by
  refine ⟨by decide +kernel, fun l hl => ?_⟩
  obtain ⟨hwritten, -⟩ := written_below_output_without_slash spacedCatalog {} "gen" outputTree
  obtain ⟨classes, hselected, c, hc, -, hchild⟩ := hwritten l hl
  cases hselected
  obtain rfl := List.mem_singleton.mp hc
  exact hchild (by decide)

/-- A class whose name leads out of the directory. -/
def escapingCatalog : Catalog :=
  ⟨[⟨"../Foo", [{ name := "A", kind := .scalar, typeName? := some "int" }]⟩]⟩

/-- A run may write outside of the output directory, although the name of the class is rejected. -/
theorem not_forall_written_below_output :
    ¬ ∀ (k : Catalog) (o : Options) (dir : String) (t : FileTree),
      ∀ l ∈ writtenBy k o dir t, t.IsChildOf dir l := by
  intro h
  have hwritten : ["work", "Foo.h"] ∈ writtenBy escapingCatalog {} "gen" outputTree := by
    decide +kernel
  obtain ⟨location, name, hdir, hl⟩ := h escapingCatalog {} "gen" outputTree _ hwritten
  have hgen : outputTree.directory? "gen" = some ["work", "gen"] := by decide +kernel
  obtain rfl : ["work", "gen"] = location := Option.some.inj (hgen.symm.trans hdir)
  -- A child of the directory is one name longer.
  exact absurd (congrArg List.length hl) (by simp)

end OpaqueC
