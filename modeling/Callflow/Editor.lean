import Callflow.Json.Value

/-!
The documents of the canvas editor. A node has a tag for its type and one payload whose fields
matter or not by its type; options and variables may be written in more than one way.
-/

namespace Callflow.Editor

/-- An option of a customer response: a text, or an object with a text, a label or both. -/
inductive Choice where
  | text (s : String)
  | labelled (text label : Option String)
  deriving DecidableEq, Repr

def Choice.text? : Choice → Option String
  | .text s => some s
  | .labelled t l => t.or l

/-- A variable by its name, as an object with a name, or as a sequence that starts with it. -/
inductive VariableRef where
  | name (s : String)
  | named (s : String)
  | tuple (items : List Json.Value)
  deriving DecidableEq, Repr

def VariableRef.name? : VariableRef → Option String
  | .name s => some s
  | .named s => some s
  | .tuple items => items.head?.bind Json.Value.string?

structure Payload where
  text : Option String := none
  prompt : Option String := none
  label : Option String := none
  name : Option String := none
  isStart : Option Bool := none
  extractVars : Option (List VariableRef) := none
  options : Option (List Choice) := none
  variableName : Option String := none
  extractVariables : Option (List VariableRef) := none
  transferNumber : Option String := none
  webhookUrl : Option String := none
  webhookMethod : Option String := none
  body : Option Json.Value := none
  condition : Option String := none
  deriving DecidableEq, Repr

structure Node where
  id : String
  type : Option String := none
  data : Payload := {}
  deriving DecidableEq, Repr

structure EdgeData where
  label : Option String := none
  deriving DecidableEq, Repr

structure Edge where
  id : String
  source : String
  target : String
  sourceHandle : Option String := none
  targetHandle : Option String := none
  label : Option String := none
  data : Option EdgeData := none
  deriving DecidableEq, Repr

structure Document where
  nodes : List Node
  edges : List Edge := []
  name : Option String := none
  description : Option String := none
  deriving DecidableEq, Repr

end Callflow.Editor
