import OpaqueC.FileTree.Basic

/-!
# Disks

What a run needs of the files around it. A run is written once, for any way of keeping
files; a `FileTree` is one.

## Main definitions

* `Disk`: reading, writing and creating directories in a monad.
-/

namespace OpaqueC

/-- Access to files. -/
class Disk (m : Type → Type) where
  /-- The content of a file. -/
  read : String → m (Except FileError ByteArray)
  /-- Create a file, or replace its content. -/
  write : String → String → m (Except FileError Unit)
  /-- Create a directory and all that it lies in. -/
  createDirectories : String → m (Except FileError Unit)

/-- A file tree as a disk. A write that fails leaves the tree as it is. -/
instance : Disk (StateM FileTree) where
  read path := do return (← get).read path
  write path content := modifyGet fun t =>
    match t.write path content.toUTF8 with
    | .ok t' => (.ok (), t')
    | .error e => (.error e, t)
  createDirectories path := modifyGet fun t =>
    let (t', result) := t.createDirectories path
    (result, t')

end OpaqueC
