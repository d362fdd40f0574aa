import Callflow.Command.Host

/-!
Paths: where one starts, the folders it goes through, and the name it ends in. A path that cannot
name any file is refused before anything is looked for.
-/

namespace Callflow.Command

structure Path where
  absolute : Bool
  folders : List String
  name : String
  slash : Bool
  deriving DecidableEq, Repr

/-- A path has fewer bytes than this. -/
def pathLimit : Nat := 4096

/-- A name has no more bytes than this. -/
def nameLimit : Nat := 255

def isDots (name : String) : Bool := name = "." || name = ".."

namespace Path

def parse (path : String) : Path :=
  let names := (path.splitOn "/").filter (· ≠ "")
  { absolute := path.startsWith "/", folders := names.dropLast, name := names.getLast?.getD "",
    slash := path.endsWith "/" }

def read (path : String) : Except FileError Path :=
  if path.contains '\x00' then .error .nulInName
  else if path = "" then .error .notFound
  else if path.utf8ByteSize < pathLimit then .ok (parse path)
  else .error .nameTooLong

/-- The path ends in a folder by its form alone. A path of slashes only has no name. -/
def endsInFolder (p : Path) : Bool := p.name = "" || isDots p.name

end Path

end Callflow.Command
