import Callflow.Json.Value

/-!
Pathways: the documents a voice-call provider runs. A pathway lists its nodes, among them exactly
one that starts the call, and the edges between them.
-/

namespace Callflow

open Decimal

namespace Pathway

inductive NodeType where
  | default
  | endCall
  | transferCall
  | webhook
  deriving DecidableEq, Repr

def NodeType.name : NodeType → String
  | .default => "Default"
  | .endCall => "End Call"
  | .transferCall => "Transfer Call"
  | .webhook => "Webhook"

inductive VariableType where
  | string
  | integer
  | boolean
  deriving DecidableEq, Repr

def VariableType.name : VariableType → String
  | .string => "string"
  | .integer => "integer"
  | .boolean => "boolean"

structure Variable where
  name : String
  type : VariableType
  description : String
  required : Bool
  deriving DecidableEq, Repr

/-- How a node behaves in a call. Only the start node says so. -/
structure CallFlags where
  isSMSReturnNode : Option Bool := none
  skipUserResponse : Option Bool := none
  disableEndCallTool : Option Bool := none
  blockInterruptions : Option Bool := none
  disableSilenceRepeat : Option Bool := none
  deriving DecidableEq, Repr

def CallFlags.start : CallFlags := ⟨some false, some false, some false, some false, some false⟩

structure ModelOptions where
  modelType : String
  temperature : Binary64
  flags : CallFlags := {}
  deriving DecidableEq, Repr

inductive Content where
  | text (s : String)
  | prompt (s : String)
  deriving DecidableEq, Repr

structure ExtractSettings where
  deriving DecidableEq, Repr

structure NodeData where
  name : String
  content : Content
  isStart : Bool := false
  model : ModelOptions
  extractVars : Option (List Variable) := none
  extractSettings : Option ExtractSettings := none
  transferNumber : Option String := none
  url : Option String := none
  method : Option String := none
  body : Option Json.Value := none
  deriving DecidableEq, Repr

structure Node where
  id : String
  type : NodeType
  data : NodeData
  deriving DecidableEq, Repr

namespace Node

def isStart (n : Node) : Bool := n.data.isStart

def spokenText (n : Node) : String :=
  match n.data.content with
  | .text s => s
  | .prompt s => s

end Node

structure Edge where
  id : String
  source : String
  target : String
  label : String
  sourceHandle : Option String := none
  targetHandle : Option String := none
  dataLabel : String
  deriving DecidableEq, Repr

def Edge.labelled (id source target label : String) : Edge :=
  { id, source, target, label, dataLabel := label }

inductive Entry where
  | node (n : Node)
  /-- The prompt all nodes share, which ends the list of nodes. -/
  | globalConfig (prompt : String)
  deriving DecidableEq, Repr

end Pathway

structure Pathway where
  name : String
  description : String
  nodes : List Pathway.Entry
  edges : List Pathway.Edge
  deriving DecidableEq, Repr

namespace Pathway

def Entry.node? : Entry → Option Node
  | .node n => some n
  | .globalConfig _ => none

def outputNodes (p : Pathway) : List Node := p.nodes.filterMap Entry.node?

def find? (p : Pathway) (id : String) : Option Node := p.outputNodes.find? (·.id = id)

def startNode? (p : Pathway) : Option Node := p.outputNodes.find? (·.isStart)

end Pathway

end Callflow
