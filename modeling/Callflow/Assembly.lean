import Callflow.IdTable
import Callflow.Routing
import Callflow.Settings

/-!
The nodes of a pathway: those of its chart that speak, as the provider knows them, and a greeting
and a closing if there is none among them.
-/

namespace Callflow.Assembly

open Pathway Text

def providerType : Chart.Kind → NodeType
  | .endCall _ _ => .endCall
  | .transfer _ _ => .transferCall
  | .webhook _ _ => .webhook
  | _ => .default

def modelOptions (s : Settings) : ModelOptions := ⟨s.model.modelType, s.model.temperature, {}⟩

def content (s : Settings) : Chart.Kind → Content
  | .endCall text prompt =>
    .prompt (((nonBlank? prompt).or (nonBlank? (some text))).getD s.endCallPrompt)
  | kind => .text ((nonBlank? kind.text?).getD s.defaultText)

def nodeName (n : Chart.Node) : String :=
  ((nonBlank? n.label).or (nonBlank? n.name)).getD n.kind.displayName

def node (s : Settings) (n : Chart.Node) : Pathway.Node :=
  let plain : NodeData :=
    { name := nodeName n, content := content s n.kind, model := modelOptions s }
  ⟨n.id, providerType n.kind,
    match n.kind with
    | .transfer _ number => { plain with transferNumber := number }
    | .webhook _ call =>
      { plain with url := some call.url, method := some call.method, body := call.body }
    | _ => plain⟩

def greeting (s : Settings) (id : String) : Pathway.Node :=
  ⟨id, .default,
    { name := "Greeting", content := .text s.synthesizedGreeting, model := modelOptions s }⟩

def closing (s : Settings) (id : String) : Pathway.Node :=
  ⟨id, .endCall,
    { name := "End Call", content := .prompt s.synthesizedClosing, model := modelOptions s }⟩

def isDefault (n : Pathway.Node) : Bool := n.type == .default

def isEndCall (n : Pathway.Node) : Bool := n.type == .endCall

/-- Nodes, the identifiers they have, and those of the nodes that were added. -/
structure Staffed where
  nodes : List Pathway.Node
  ids : IdTable
  added : List String := []
  deriving DecidableEq, Repr

def Staffed.withGreeting (s : Settings) (st : Staffed) : Staffed :=
  if st.nodes.any isDefault then st
  else
    let (id, ids) := st.ids.reserve "default_greeting"
    ⟨greeting s id :: st.nodes, ids, st.added ++ [id]⟩

def Staffed.withClosing (s : Settings) (st : Staffed) : Staffed :=
  if st.nodes.any isEndCall then st
  else
    let (id, ids) := st.ids.reserve "end_call"
    ⟨st.nodes ++ [closing s id], ids, st.added ++ [id]⟩

/-- The edge from the first plain node to the first closing, for a pathway without edges. -/
def connection? (nodes : List Pathway.Node) (edges : List Pathway.Edge) (ids : IdTable) :
    Option Pathway.Edge :=
  if !edges.isEmpty || nodes.length < 2 then none
  else
    match nodes.find? isDefault, nodes.find? isEndCall with
    | some source, some target =>
      let (id, _) :=
        ids.reserve (source.id ++ "_" ++ Routing.fallbackLabel ++ "_" ++ target.id)
      some (.labelled id source.id target.id Routing.fallbackLabel)
    | _, _ => none

end Callflow.Assembly
