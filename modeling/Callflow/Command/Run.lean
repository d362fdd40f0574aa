import Callflow.Command.Arguments
import Callflow.Command.Host
import Callflow.Document
import Callflow.Pathway.Encode
import Callflow.Pathway.Outline
import Callflow.Settings.Reader

/-!
The command: it reads a flowchart from a file, validates or compiles it, and writes the pathway to a
file or to the output. What it has to say goes to the error output.
-/

namespace Callflow.Command

inductive Failure where
  | pathMissing
  | flowchartUnreadable (path : String) (reason : FileError)
  | settingsUnreadable (path : String) (reason : FileError)
  | settingsMalformed (path : String) (e : Json.SyntaxError)
  | flowchartMalformed (e : Json.SyntaxError)
  | refused (r : Refusal)
  | unwritable (path : String) (reason : FileError)
  deriving DecidableEq, Repr

def Failure.message : Failure → String
  | .pathMissing => "Flowchart path is required in non-interactive mode."
  | .flowchartUnreadable path reason =>
    "Failed to read flowchart file '" ++ path ++ "': " ++ reason.message
  | .settingsUnreadable path reason => "Could not read config file '" ++ path ++ "': " ++ reason.message
  | .settingsMalformed path e => "Could not parse config file '" ++ path ++ "': " ++ e.message
  | .flowchartMalformed e => "Failed to parse flowchart JSON: " ++ e.message
  | .refused r => "Compilation failed: " ++ r.message
  | .unwritable path reason => "Failed to write pathway to '" ++ path ++ "': " ++ reason.message

def succeeded : Nat := 0

def failed : Nat := 1

def misused : Nat := 2

def validation (text : String) : Except Failure (String × Nat) :=
  match Json.Value.read text with
  | .error e => .error (.flowchartMalformed e)
  | .ok document =>
    let report := Editor.validate document
    if report.isValid then
      .ok ("Flowchart is valid (" ++ toString report.nodes.length ++ " nodes, " ++
        toString report.edges.length ++ " edges)\n", succeeded)
    else
      let lines := report.messages.map fun m => "  - " ++ m ++ "\n"
      .ok ("Flowchart has " ++ toString report.issues.length ++ " issue(s):\n" ++ String.join lines,
        if report.hasNodeList then succeeded else failed)

section

variable {m : Type → Type} [Monad m] [Host m]

def errLine (s : String) : m Unit := Host.err (s ++ "\n")

def ask (question default : String) : m String := do
  Host.err ("> " ++ question ++ " [default: " ++ default ++ "]: ")
  let answer := Text.trim (← Host.readLine)
  return if answer = "" then default else answer

def loadFlowchart (path : String) : ExceptT Failure m String := do
  match ← Host.readFile path with
  | .ok text => return text
  | .error reason => throw (.flowchartUnreadable path reason)

def loadSettings (path : Option String) : ExceptT Failure m Settings := do
  match path with
  | none => return {}
  | some path =>
    match ← Host.readFile path with
    | .error reason => throw (.settingsUnreadable path reason)
    | .ok text =>
      match Settings.read text with
      | .ok settings => return settings
      | .error e => throw (.settingsMalformed path e)

def save (p : Pathway) (output : Option String) : ExceptT Failure m Unit := do
  let json := p.toPrettyJson
  match output with
  | none => Host.out (json ++ "\n")
  | some path =>
    match ← Host.writeFile path json with
    | .error reason => throw (.unwritable path reason)
    | .ok () =>
      errLine ("Pathway '" ++ p.name ++ "' written to '" ++ path ++ "' (" ++
        toString p.outputNodes.length ++ " nodes, " ++ toString p.edges.length ++ " edges)")

def compileFile (a : Arguments) (s : Settings) (text : String) (output : Option String) :
    ExceptT Failure m Unit := do
  let metadata : Metadata := ⟨a.value? .name, a.value? .description⟩
  match compileText s metadata (← Host.now) text with
  | .error r => throw (.refused r)
  | .ok compiled =>
    match compiled.diagnostics.summary? with
    | some summary => errLine summary
    | none => pure ()
    if a.has .outline then errLine compiled.pathway.outline
    save compiled.pathway output

/-- Reads the flowchart, then the settings, then does what was asked for. -/
def process (a : Arguments) (path : String) (output : Option String) : ExceptT Failure m Nat := do
  let text ← loadFlowchart path
  let settings ← loadSettings (a.value? .config)
  if a.has .validateOnly then
    let (report, code) ← liftExcept (validation text)
    Host.out report
    return code
  else
    compileFile a settings text output
    return succeeded
where
  liftExcept {α : Type} (r : Except Failure α) : ExceptT Failure m α := ExceptT.mk (pure r)

def start (a : Arguments) : ExceptT Failure m Nat := do
  if a.has .human then
    errLine "--- Michi Interactive Mode ---"
    let path ← ask "Enter flowchart path" "data/flowchart.json"
    let output ← ask "Enter output path (optional)" "pathway.json"
    process a path (some output)
  else
    match a.path with
    | none => throw .pathMissing
    | some path => process a path (a.value? .output)

def run (args : List String) : m Nat := do
  match Arguments.read? args with
  | none => return misused
  | some a =>
    match ← (start a).run with
    | .ok code => return code
    | .error failure =>
      errLine ("\nError: " ++ failure.message)
      return failed

end

end Callflow.Command
