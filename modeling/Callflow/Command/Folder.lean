import Callflow.Command.Path

/-!
A folder in memory as the system a command runs in: its files by their paths, what is left of the
input, and what was written to the outputs. There are the folders that hold a file and those above;
of the latter nothing is known, and what is written there is not kept.
-/

namespace Callflow.Command

structure Folder where
  files : List (String × String) := []
  input : List Char := []
  out : String := ""
  err : String := ""
  now : Int := 0

namespace Folder

/-- Where a walk stands: in the folder or in one below it, by the names on the way, or above. -/
inductive Place where
  | inside (way : List String)
  | above
  deriving DecidableEq, Repr

def Place.parent : Place → Place
  | .inside [] => .above
  | .inside (name :: rest) => .inside (name :: rest).dropLast
  | .above => .above

def joined (way : List String) : String := String.intercalate "/" way

def get? (f : Folder) (way : List String) : Option String := f.files.lookup (joined way)

def holds (f : Folder) (way : List String) : Bool :=
  way.isEmpty || f.files.any fun (path, _) => path.startsWith (joined way ++ "/")

inductive Entry where
  | folder (place : Place)
  | file (way : List String) (text : String)
  | vacant (place : Place)
  deriving DecidableEq, Repr

def entry (f : Folder) (place : Place) (name : String) : Except FileError Entry :=
  if name = "." then .ok (.folder place)
  else if name = ".." then .ok (.folder place.parent)
  else if nameLimit < name.utf8ByteSize then .error .nameTooLong
  else
    match place with
    | .above => .ok (.vacant .above)
    | .inside way =>
      let next := way ++ [name]
      if f.holds next then .ok (.folder (.inside next))
      else
        match f.get? next with
        | some text => .ok (.file next text)
        | none => .ok (.vacant (.inside next))

def enter (f : Folder) (place : Place) (name : String) : Except FileError Place := do
  match ← f.entry place name with
  | .folder next => return next
  | .file .. => throw .notFolder
  | .vacant _ => throw .notFound

/-- Walks through the folders of a path, each of which has to be there, also before a `..`. -/
def walk (f : Folder) (p : Path) : Except FileError Place :=
  p.folders.foldlM f.enter (if p.absolute then .above else .inside [])

def read (f : Folder) (path : String) : Except FileError String := do
  let p ← Path.read path
  let place ← f.walk p
  if p.endsInFolder then throw .isFolder
  match ← f.entry place p.name with
  | .folder _ => throw .isFolder
  | .file _ text => if p.slash then throw .notFolder else return text
  | .vacant _ => throw .notFound

/-- A file is replaced where it stands, a new one comes last. -/
def put (path text : String) : List (String × String) → List (String × String)
  | [] => [(path, text)]
  | (p, t) :: rest => if p = path then (path, text) :: rest else (p, t) :: put path text rest

/-- A path that ends in a slash is no file to write to, whatever it leads to. -/
def write (f : Folder) (path text : String) : Except FileError Folder := do
  let p ← Path.read path
  let place ← f.walk p
  if p.endsInFolder || p.slash then throw .isFolder
  match ← f.entry place p.name with
  | .folder _ => throw .isFolder
  | .file way _ | .vacant (.inside way) => return { f with files := put (joined way) text f.files }
  | .vacant .above => return f

def nextLine : List Char → List Char × List Char
  | [] => ([], [])
  | c :: rest =>
    if c = '\n' then ([c], rest)
    else
      let (line, rest) := nextLine rest
      (c :: line, rest)

instance : Host (StateM Folder) where
  readFile path := fun f => (f.read path, f)
  writeFile path text := fun f =>
    match f.write path text with
    | .ok g => (.ok (), g)
    | .error reason => (.error reason, f)
  readLine := fun f =>
    let (line, rest) := nextLine f.input
    (String.ofList line, { f with input := rest })
  out s := fun f => ((), { f with out := f.out ++ s })
  err s := fun f => ((), { f with err := f.err ++ s })
  now := fun f => (f.now, f)

end Folder

end Callflow.Command
