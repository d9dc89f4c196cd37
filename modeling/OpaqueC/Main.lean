import OpaqueC.Program

/-!
# The command line

The program on the files of the machine it runs on.
-/

namespace OpaqueC

/-- The cause of a failure to use a file. -/
def FileError.ofSystem (e : IO.Error) : FileError :=
  match e with
  | .noFileOrDirectory .. | .noSuchThing .. => .notFound
  | .alreadyExists .. => .alreadyExists
  | .inappropriateType _ 20 _ => .notADirectory
  | .inappropriateType _ 21 _ => .isADirectory
  | .resourceExhausted _ 36 _ | .invalidArgument _ 36 _ => .nameTooLong
  | e => .other (toString e)

/-- The outcome of an action on files. -/
def attempt {α : Type} (action : IO α) : IO (Except FileError α) := do
  match ← action.toBaseIO with
  | .ok a => return .ok a
  | .error e => return .error (.ofSystem e)

/-- The files of the machine. -/
instance : Disk IO where
  read path := attempt (IO.FS.readBinFile path)
  write path content := attempt (IO.FS.writeFile path content)
  createDirectories path :=
    if path.isEmpty then return .ok () else attempt (IO.FS.createDirAll path)

end OpaqueC

/-- Run the program and end with its exit status. -/
def main (arguments : List String) : IO UInt32 := do
  let result ← (OpaqueC.runProgram arguments : IO OpaqueC.Result)
  IO.print result.output
  IO.eprint result.messages
  return UInt32.ofNat result.status
