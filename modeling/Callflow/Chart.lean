import Callflow.Json.Value

/-!
Charts: conversations as typed nodes and the edges between them.
-/

namespace Callflow

structure Webhook where
  url : String := ""
  method : String := "POST"
  body : Option Json.Value := none
  deriving DecidableEq, Repr

namespace Chart

inductive Kind where
  | greeting (text : String)
  | question (text : String)
  | response (text : String) (extractVariables : List String)
  | customerResponse (text : String) (options : List String) (variableName : Option String)
  | transfer (text : String) (number : Option String)
  | endCall (text : String) (prompt : Option String)
  | webhook (text : String) (call : Webhook)
  | conditional (condition : String)
  | facebookLead (text : String)
  | googleLead (text : String)
  | zapier (text : String)
  deriving DecidableEq, Repr

namespace Kind

def displayName : Kind → String
  | .greeting _ => "Greeting"
  | .question _ => "Question"
  | .response _ _ => "Response"
  | .customerResponse _ _ _ => "Customer Response"
  | .transfer _ _ => "Transfer"
  | .endCall _ _ => "End Call"
  | .webhook _ _ => "Webhook"
  | .conditional _ => "Conditional"
  | .facebookLead _ => "Facebook Lead"
  | .googleLead _ => "Google Lead"
  | .zapier _ => "Zapier"

def isConditional : Kind → Bool
  | .conditional _ => true
  | _ => false

def isGreeting : Kind → Bool
  | .greeting _ => true
  | _ => false

def text? : Kind → Option String
  | .greeting t | .question t | .response t _ | .customerResponse t _ _ | .transfer t _
  | .endCall t _ | .webhook t _ | .facebookLead t | .googleLead t | .zapier t => some t
  | .conditional _ => none

end Kind

structure Node where
  id : String
  kind : Kind
  label : Option String := none
  name : Option String := none
  isStart : Bool := false
  extractVars : List String := []
  deriving DecidableEq, Repr

def Node.isConditional (n : Node) : Bool := n.kind.isConditional

structure Edge where
  id : String
  source : String
  target : String
  sourceHandle : Option String := none
  targetHandle : Option String := none
  /-- The label among the data of the edge, which goes before its own. -/
  dataLabel : Option String := none
  label : Option String := none
  deriving DecidableEq, Repr

end Chart

structure Chart where
  nodes : List Chart.Node := []
  edges : List Chart.Edge := []
  name : Option String := none
  description : Option String := none
  deriving DecidableEq, Repr

end Callflow
