/-!
# File errors

## Main definitions

* `FileError`: why a file or directory cannot be used;
* `FileError.message`: the text of the operating system for it.
-/

namespace OpaqueC

/-- Why a file or directory cannot be used. -/
inductive FileError
  /-- Nothing has that name. -/
  | notFound
  /-- Something has that name already. -/
  | alreadyExists
  /-- A file stands where a directory is needed. -/
  | notADirectory
  /-- A directory stands where a file is needed. -/
  | isADirectory
  /-- A name or the path is too long. -/
  | nameTooLong
  /-- The path holds a NUL character. -/
  | nulInPath
  /-- Any other reason, in the words of the system. -/
  | other (text : String)
  deriving DecidableEq, Repr

/-- The text of a file error. -/
def FileError.message : FileError → String
  | notFound => "No such file or directory (os error 2)"
  | alreadyExists => "File exists (os error 17)"
  | notADirectory => "Not a directory (os error 20)"
  | isADirectory => "Is a directory (os error 21)"
  | nameTooLong => "File name too long (os error 36)"
  | nulInPath => "file name contained an unexpected NUL byte"
  | other text => text

end OpaqueC
