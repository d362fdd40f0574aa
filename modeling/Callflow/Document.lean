import Callflow.Compile
import Callflow.Editor.ToChart
import Callflow.Editor.Validation
import Callflow.Json.Reader

/-!
Compiling an editor document. It fails only if the text is no JSON or if there is no list of nodes.
-/

namespace Callflow

inductive Refusal where
  | unreadable (reason : String)
  | unnavigable (issues : List String)
  | invalidData (reason : String)
  deriving DecidableEq, Repr

def Refusal.message : Refusal → String
  | .unreadable reason => "Failed to parse flowchart JSON: " ++ reason
  | .unnavigable issues => "Invalid flowchart: " ++ String.intercalate "; " issues
  | .invalidData reason => "Invalid editor data: " ++ reason

def compileDocument (s : Settings) (m : Metadata) (now : Int) (document : Json.Value) :
    Except Refusal Compiled :=
  let report := Editor.validate document
  if report.hasNodeList then
    let compiled := compile s m now report.toDocument.toChart
    .ok { compiled with diagnostics := { compiled.diagnostics with issues := report.messages } }
  else .error (.unnavigable report.messages)

def compileText (s : Settings) (m : Metadata) (now : Int) (text : String) :
    Except Refusal Compiled :=
  match Json.Value.read text with
  | .ok document => compileDocument s m now document
  | .error e => .error (.unreadable e.message)

end Callflow
