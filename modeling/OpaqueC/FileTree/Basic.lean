import OpaqueC.FileTree.Error
import OpaqueC.FileTree.Path

/-!
# File trees

A tree of directories and files, with the working directory that relative paths start from.
Paths are walked name by name: every name but the last has to lead to a directory.

## Main definitions

* `FileTree`: the entries, each at its location;
* `FileTree.locate`: what a path denotes;
* `FileTree.read`, `FileTree.write`: the content of a file;
* `FileTree.makeDirectory`, `FileTree.createDirectories`: one new directory, or all that a
  path passes through;
* `FileTree.listing`: everything below the working directory.
-/

namespace OpaqueC

/-- The names that lead from the root to an entry. -/
abbrev Location := List String

/-- A node of a file tree. -/
inductive Entry
  /-- A directory. -/
  | directory
  /-- A file with its content. -/
  | file (content : ByteArray)

/-- Files are equal if their contents are. -/
instance : DecidableEq Entry
  | .directory, .directory => isTrue rfl
  | .directory, .file _ => isFalse Entry.noConfusion
  | .file _, .directory => isFalse Entry.noConfusion
  | .file a, .file b =>
    match ByteArray.instDecidableEq a b with
    | isTrue h => isTrue (congrArg Entry.file h)
    | isFalse h => isFalse fun hab => h (Entry.file.inj hab)

/-- Directories and files. -/
structure FileTree where
  /-- The directory that relative paths start from. -/
  workingDirectory : Location
  /-- The entries below the root, each location at most once. -/
  entries : List (Location × Entry)
  deriving DecidableEq

/-- What a path denotes. -/
inductive Place
  /-- A directory reached by dots alone, or the root. -/
  | self
  /-- The entry `name` in the directory `dir`, whether it exists or not. -/
  | child (dir : Location) (name : String)
  deriving DecidableEq, Repr

namespace FileTree

/-- A tree whose only entry is an empty working directory. -/
def fresh : FileTree :=
  { workingDirectory := ["work"], entries := [(["work"], .directory)] }

/-- The entry at a location. The root is a directory. -/
def get? (t : FileTree) (location : Location) : Option Entry :=
  if location.isEmpty then some .directory else t.entries.lookup location

/-- The entries with a new or changed one. -/
def setEntry (location : Location) (entry : Entry) :
    List (Location × Entry) → List (Location × Entry)
  | [] => [(location, entry)]
  | (l, e) :: rest =>
    if l = location then (l, entry) :: rest else (l, e) :: setEntry location entry rest

/-- The tree with a new or changed entry. -/
def insert (t : FileTree) (location : Location) (entry : Entry) : FileTree :=
  { t with entries := setEntry location entry t.entries }

/-- The greatest number of bytes in a name. -/
def nameLimit : Nat := 255

/-- The greatest number of bytes in a path. -/
def pathLimit : Nat := 4095

/-- The directory that a name leads to. -/
def enter (t : FileTree) (dir : Location) (name : String) : Except FileError Location :=
  if name = "." then .ok dir
  else if name = ".." then .ok dir.dropLast
  else if nameLimit < name.utf8ByteSize then .error .nameTooLong
  else
    match t.get? (dir ++ [name]) with
    | none => .error .notFound
    | some (.file _) => .error .notADirectory
    | some .directory => .ok (dir ++ [name])

/-- The directory that names lead to. -/
def walk (t : FileTree) (dir : Location) (names : List String) : Except FileError Location :=
  names.foldlM t.enter dir

/-- What a path denotes: every name but the last has to lead to a directory. -/
def locate (t : FileTree) (path : String) : Except FileError Place := do
  if path.toList.contains '\x00' then throw .nulInPath
  if path.isEmpty then throw .notFound
  if pathLimit < path.utf8ByteSize then throw .nameTooLong
  let names := Path.names path
  let start := if Path.isAbsolute path then [] else t.workingDirectory
  let dir ← t.walk start names.dropLast
  match names.getLast? with
  -- Such a path denotes the directory that the walk has reached, or the one it lies in.
  | none | some "." | some ".." => return .self
  | some name => return .child dir name

/-- Whether a path denotes a directory. -/
def isDirectory (t : FileTree) (path : String) : Bool :=
  match t.locate path with
  | .ok .self => true
  | .ok (.child dir name) => t.get? (dir ++ [name]) == some .directory
  | .error _ => false

/-- The content of a file. -/
def read (t : FileTree) (path : String) : Except FileError ByteArray := do
  match ← t.locate path with
  | .self => throw .isADirectory
  | .child dir name =>
    if nameLimit < name.utf8ByteSize then throw .nameTooLong
    match t.get? (dir ++ [name]) with
    | none => throw .notFound
    | some .directory => throw .isADirectory
    | some (.file content) =>
      if Path.endsInSlash path then throw .notADirectory else return content

/-- Where a path allows a file to be written. -/
def writable (t : FileTree) (path : String) : Except FileError Location := do
  match ← t.locate path with
  | .self => throw .isADirectory
  | .child dir name =>
    if Path.endsInSlash path then throw .isADirectory
    if nameLimit < name.utf8ByteSize then throw .nameTooLong
    match t.get? (dir ++ [name]) with
    | some .directory => throw .isADirectory
    | _ => return dir ++ [name]

/-- Create a file, or replace its content. -/
def write (t : FileTree) (path : String) (content : ByteArray) : Except FileError FileTree :=
  (t.writable path).map fun location => t.insert location (.file content)

/-- Create one directory in an existing one. -/
def makeDirectory (t : FileTree) (path : String) : Except FileError FileTree := do
  match ← t.locate path with
  | .self => throw .alreadyExists
  | .child dir name =>
    if nameLimit < name.utf8ByteSize then throw .nameTooLong
    match t.get? (dir ++ [name]) with
    | some _ => throw .alreadyExists
    | none => return t.insert (dir ++ [name]) .directory

/-- Create the directory at the head of the list if need be, after those it lies in, which
follow it. Directories created before a failure stay. -/
def createChain (t : FileTree) : List String → FileTree × Except FileError Unit
  | [] => (t, .ok ())
  | path :: parents =>
    match t.makeDirectory path with
    | .ok created => (created, .ok ())
    | .error .notFound =>
      -- A directory on the way is missing: create it first, then try again.
      match t.createChain parents with
      | (t', .error e) => (t', .error e)
      | (t', .ok ()) =>
        match t'.makeDirectory path with
        | .ok created => (created, .ok ())
        | .error e => (t', if t'.isDirectory path then .ok () else .error e)
    -- A path that leads to a directory already is as good as a new one.
    | .error e => (t, if t.isDirectory path then .ok () else .error e)

/-- Create a directory and all that it lies in, as far as they do not exist. The empty path
needs no directory. -/
def createDirectories (t : FileTree) (path : String) : FileTree × Except FileError Unit :=
  if path.isEmpty then (t, .ok ()) else t.createChain (path :: Path.parents path)

/-- Everything below the working directory in the order of the paths, with the content of
the files. The path of a directory ends in a slash. -/
def listing (t : FileTree) : List (String × Option ByteArray) :=
  let below := t.entries.filterMap fun (location, entry) =>
    let names := location.drop t.workingDirectory.length
    if t.workingDirectory.isPrefixOf location && !names.isEmpty then
      let path := "/".intercalate names
      match entry with
      | .directory => some (path ++ "/", none)
      | .file content => some (path, some content)
    else none
  below.mergeSort fun a b => a.1 ≤ b.1

/-- A changed entry is found at its location. -/
theorem lookup_setEntry_self (location : Location) (entry : Entry)
    (entries : List (Location × Entry)) :
    (setEntry location entry entries).lookup location = some entry := by
  induction entries with
  | nil => simp [setEntry]
  | cons head rest ih =>
    obtain ⟨l, e⟩ := head
    by_cases h : l = location
    · simp [setEntry, h]
    · have h' : (location == l) = false := by simpa using Ne.symm h
      simp [setEntry, h, List.lookup_cons, h', ih]

/-- A changed entry leaves those at other locations as they are. -/
theorem lookup_setEntry_of_ne {location other : Location} (entry : Entry)
    (entries : List (Location × Entry)) (h : other ≠ location) :
    (setEntry location entry entries).lookup other = entries.lookup other := by
  have hb : (other == location) = false := by simpa using h
  induction entries with
  | nil => simp [setEntry, List.lookup_cons, hb]
  | cons head rest ih =>
    obtain ⟨l, e⟩ := head
    by_cases hl : l = location
    · subst hl
      simp [setEntry, List.lookup_cons, hb]
    · simp only [setEntry, hl, if_false, List.lookup_cons, ih]

/-- A new entry is found at its location. -/
theorem get?_insert_self (t : FileTree) {location : Location} (entry : Entry)
    (h : location ≠ []) : get? (t.insert location entry) location = some entry := by
  simp [get?, insert, h, lookup_setEntry_self]

/-- A new entry leaves those at other locations as they are. -/
theorem get?_insert_of_ne (t : FileTree) {location other : Location} (entry : Entry)
    (h : other ≠ location) : get? (t.insert location entry) other = t.get? other := by
  simp [get?, insert, lookup_setEntry_of_ne entry t.entries h]

end FileTree

end OpaqueC
