import Callflow.Chart
import Callflow.Editor
import Callflow.Editor.TypeTag

/-!
The chart that an editor document shows. A node without a type or with an unknown one is a question.
-/

namespace Callflow.Editor

def variableNames (refs : Option (List VariableRef)) : List String :=
  (refs.getD []).filterMap VariableRef.name?

def Payload.kind (p : Payload) : NodeType → Chart.Kind
  | .greeting => .greeting (p.text.getD "")
  | .question => .question (p.text.getD "")
  | .response => .response (p.text.getD "") (variableNames p.extractVariables)
  | .customerResponse => .customerResponse (p.text.getD "")
      ((p.options.getD []).map fun o => o.text?.getD "") p.variableName
  | .transfer => .transfer (p.text.getD "") p.transferNumber
  | .endCall => .endCall (p.text.getD "") p.prompt
  | .webhook => .webhook (p.text.getD "")
      ⟨p.webhookUrl.getD "", p.webhookMethod.getD "POST", p.body⟩
  | .conditional => .conditional ((p.condition.or p.text).getD "")
  | .facebookLead => .facebookLead (p.text.getD "")
  | .googleLead => .googleLead (p.text.getD "")
  | .zapier => .zapier (p.text.getD "")

def Node.nodeType (n : Node) : NodeType := (n.type.bind NodeType.ofTag?).getD .question

def Node.toChart (n : Node) : Chart.Node where
  id := n.id
  kind := n.data.kind n.nodeType
  label := n.data.label
  name := n.data.name
  isStart := n.data.isStart.getD false
  extractVars := variableNames n.data.extractVars

def Edge.toChart (e : Edge) : Chart.Edge where
  id := e.id
  source := e.source
  target := e.target
  sourceHandle := e.sourceHandle
  targetHandle := e.targetHandle
  dataLabel := e.data.bind (·.label)
  label := e.label

def Document.toChart (d : Document) : Chart where
  nodes := d.nodes.map Node.toChart
  edges := d.edges.map Edge.toChart
  name := d.name
  description := d.description

end Callflow.Editor
