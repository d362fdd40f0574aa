/-!
The arguments of the command. An option takes its value from behind an equals sign, from the rest of
a group of short flags, or from the next argument, which then may not look like a flag. Only
`verbose` may be repeated. Behind `--` every argument is a path.

The options that only print a text, `--help`, `-h`, `--version` and `-V`, are left out: they are no
options here, so a run with one of them counts as misuse.
-/

namespace Callflow.Command

inductive Key where
  | output
  | name
  | description
  | config
  deriving DecidableEq, Repr

inductive Flag where
  | validateOnly
  | outline
  | verbose
  | human
  deriving DecidableEq, Repr

structure Arguments where
  path : Option String := none
  values : List (Key × String) := []
  flags : List Flag := []
  deriving DecidableEq, Repr

namespace Arguments

def value? (a : Arguments) (k : Key) : Option String := a.values.lookup k

def has (a : Arguments) (f : Flag) : Bool := a.flags.contains f

def keys : List (String × Key) :=
  [("output", .output), ("name", .name), ("description", .description), ("config", .config)]

def flagNames : List (String × Flag) :=
  [("validate-only", .validateOnly), ("outline", .outline), ("verbose", .verbose),
    ("human", .human)]

def shortKeys : List (Char × Key) := [('o', .output), ('c', .config)]

def shortFlags : List (Char × Flag) := [('v', .verbose), ('i', .human)]

def addPath (a : Arguments) (path : String) : Option Arguments :=
  if a.path.isSome then none else some { a with path := some path }

def addValue (a : Arguments) (k : Key) (v : String) : Option Arguments :=
  if (a.value? k).isSome then none else some { a with values := (k, v) :: a.values }

def addFlag (a : Arguments) (f : Flag) : Option Arguments :=
  if f ≠ .verbose ∧ a.has f then none else some { a with flags := f :: a.flags }

/-- What an argument asks for; `expects` is an option whose value is to come. -/
structure Step where
  arguments : Arguments
  expects : Option Key := none

def long (a : Arguments) (body : List Char) : Option Step :=
  let name := String.ofList (body.takeWhile (· ≠ '='))
  match keys.lookup name, flagNames.lookup name, body.dropWhile (· ≠ '=') with
  | some k, _, [] => some ⟨a, some k⟩
  | some k, _, _ :: v => (a.addValue k (String.ofList v)).map (⟨·, none⟩)
  | none, some f, [] => (a.addFlag f).map (⟨·, none⟩)
  | none, _, _ => none

/-- A group of short flags. The first option in it takes the rest of the group as its value. -/
def short (a : Arguments) : List Char → Option Step
  | [] => some ⟨a, none⟩
  | c :: rest =>
    match shortFlags.lookup c, shortKeys.lookup c with
    | some f, _ => (a.addFlag f).bind fun a => short a rest
    | none, some k =>
      match rest with
      | [] => some ⟨a, some k⟩
      | '=' :: v => (a.addValue k (String.ofList v)).map (⟨·, none⟩)
      | v => (a.addValue k (String.ofList v)).map (⟨·, none⟩)
    | none, none => none

def step (a : Arguments) (arg : String) : Option Step :=
  match arg.toList with
  | '-' :: '-' :: body => a.long body
  | '-' :: c :: rest => a.short (c :: rest)
  | _ => (a.addPath arg).map (⟨·, none⟩)

def looksLikeFlag (arg : String) : Bool :=
  match arg.toList with
  | '-' :: _ :: _ => true
  | _ => false

def readFrom (a : Arguments) (expects : Option Key) : List String → Option Arguments
  | [] => if expects.isSome then none else some a
  | arg :: rest =>
    match expects with
    | some k =>
      if looksLikeFlag arg then none
      else (a.addValue k arg).bind fun a => readFrom a none rest
    | none =>
      if arg = "--" then rest.foldlM addPath a
      else (a.step arg).bind fun s => readFrom s.arguments s.expects rest

def read? (args : List String) : Option Arguments := readFrom {} none args

end Arguments

end Callflow.Command
