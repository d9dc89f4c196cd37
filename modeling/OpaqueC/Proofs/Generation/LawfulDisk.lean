import Mathlib.Logic.Function.Basic
import OpaqueC.FileTree.Disk
import OpaqueC.Proofs.FileTree.Directories

/-!
# Lawful disks

What a run may rely on, whatever keeps the files. A write puts one file in its place, or is
refused and changes nothing; where the paths lead and which of them are refused does not depend
on the files written before. Why a path is refused is left open, so a disk may have more reasons
than a file tree has.

## Main definitions

* `DiskView`: the place of a path, and the entry at a location;
* `Stored`: the effect of one write;
* `LawfulDisk`: a disk that obeys these laws.

## Main results

* the instance for `FileTree`;
* `place?_join_inj`: files of distinct names in one directory have distinct places.
-/

namespace OpaqueC

/-- What can be seen of the state of a disk. -/
class DiskView (σ : Type) where
  /-- Where a file is created or replaced by a write under a path, unless it is refused. -/
  place? : σ → String → Option Location
  /-- The entry at a location. -/
  entryAt : σ → Location → Option Entry

export DiskView (place? entryAt)

/-- The disk `s'` is the disk `s` with a file put in a place. -/
structure Stored {σ : Type} [DiskView σ] (s : σ) (l : Location) (content : String) (s' : σ) :
    Prop where
  entryAt_eq : entryAt s' = Function.update (entryAt s) l (some (.file content.toUTF8))
  place?_eq : place? s' = place? s

/-- A disk whose writes put one file in place, or are refused and change nothing. The last law
says that the files are in a tree: a file below a directory goes by its own name. -/
class LawfulDisk (σ : Type) [Disk (StateM σ)] [DiskView σ] : Prop where
  write_refused {s : σ} {path : String} (content : String) (h : place? s path = none) :
    ∃ cause, (Disk.write path content : StateM σ _).run s = (.error cause, s)
  write_placed {s : σ} {path : String} {l : Location} (content : String)
    (h : place? s path = some l) :
    ∃ s', (Disk.write path content : StateM σ _).run s = (.ok (), s') ∧ Stored s l content s'
  getLast?_place {s : σ} {dir name : String} {l : Location} (hname : Path.IsFileName name)
    (h : place? s (Path.join dir name) = some l) : l.getLast? = some name

theorem place?_join_inj {σ : Type} [Disk (StateM σ)] [DiskView σ] [LawfulDisk σ] {s : σ}
    {dir name name' : String} {l : Location} (hname : Path.IsFileName name)
    (hname' : Path.IsFileName name') (h : place? s (Path.join dir name) = some l)
    (h' : place? s (Path.join dir name') = some l) : name = name' := by
  have hlast := LawfulDisk.getLast?_place hname h
  rw [LawfulDisk.getLast?_place hname' h'] at hlast
  exact (Option.some.inj hlast).symm

namespace FileTree

/-- A path has the place where the tree allows a file to be written. -/
instance : DiskView FileTree where
  place? t path := (t.writable path).toOption
  entryAt := get?

theorem place?_eq_some_iff {t : FileTree} {path : String} {l : Location} :
    place? t path = some l ↔ t.writable path = .ok l := by
  change (t.writable path).toOption = some l ↔ _
  cases t.writable path <;> simp [Except.toOption]

theorem run_write (t : FileTree) (path content : String) :
    (Disk.write path content : StateM FileTree _).run t =
      match t.write path content.toUTF8 with
      | .ok t' => (.ok (), t')
      | .error cause => (.error cause, t) := rfl

theorem stored_insert {t : FileTree} {path : String} {l : Location}
    (h : t.writable path = .ok l) (content : String) :
    Stored t l content (t.insert l (.file content.toUTF8)) where
  entryAt_eq := by
    funext other
    by_cases hother : other = l
    · subst hother
      rw [Function.update_self]
      exact get?_insert_self t _ (ne_nil_of_writable h)
    · rw [Function.update_of_ne hother]
      exact get?_insert_of_ne t _ hother
  place?_eq := by
    -- A written file changes no directory, and the directories decide about every path.
    funext other
    apply Option.ext
    intro place
    rw [place?_eq_some_iff, place?_eq_some_iff]
    exact (sameDirectories_insert h _).writable_eq_ok_iff

/-- A file tree is a lawful disk. -/
instance : LawfulDisk FileTree where
  write_refused {t path} content h := by
    cases hwritable : t.writable path with
    | ok l =>
      rw [place?_eq_some_iff.mpr hwritable] at h
      cases h
    | error cause =>
      refine ⟨cause, ?_⟩
      rw [run_write, write, hwritable]
      rfl
  write_placed {t path l} content h := by
    have hwritable := place?_eq_some_iff.mp h
    refine ⟨t.insert l (.file content.toUTF8), ?_, stored_insert hwritable content⟩
    rw [run_write, write, hwritable]
    rfl
  getLast?_place {t dir name l} hname h := by
    obtain ⟨location, -, rfl⟩ := writable_join hname (place?_eq_some_iff.mp h)
    exact List.getLast?_concat

end FileTree

end OpaqueC
