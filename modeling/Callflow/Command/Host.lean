/-!
What the command asks of the system it runs in.
-/

namespace Callflow.Command

inductive FileError where
  | notFound
  | notPermitted
  | notFolder
  | isFolder
  | nameTooLong
  | nulInName
  | notText
  | other (text : String)
  deriving DecidableEq, Repr

def FileError.message : FileError → String
  | .notFound => "No such file or directory (os error 2)"
  | .notPermitted => "Permission denied (os error 13)"
  | .notFolder => "Not a directory (os error 20)"
  | .isFolder => "Is a directory (os error 21)"
  | .nameTooLong => "File name too long (os error 36)"
  | .nulInName => "file name contained an unexpected NUL byte"
  | .notText => "stream did not contain valid UTF-8"
  | .other text => text

/-- Files by their paths, the next line of the input, and two outputs. A file that cannot be read or
written has the reason. -/
class Host (m : Type → Type) where
  readFile : String → m (Except FileError String)
  writeFile : String → String → m (Except FileError Unit)
  readLine : m String
  out : String → m Unit
  err : String → m Unit
  now : m Int

instance {ε : Type} {m : Type → Type} [Monad m] [Host m] : Host (ExceptT ε m) where
  readFile path := ExceptT.lift (Host.readFile path)
  writeFile path text := ExceptT.lift (Host.writeFile path text)
  readLine := ExceptT.lift Host.readLine
  out s := ExceptT.lift (Host.out s)
  err s := ExceptT.lift (Host.err s)
  now := ExceptT.lift Host.now

end Callflow.Command
