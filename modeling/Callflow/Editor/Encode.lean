import Callflow.Editor
import Callflow.Json.Ordered
import Callflow.Json.Writer

/-!
An editor document as a JSON value. A value that is not there has no field, except that an option
written as an object always shows its text and its label.
-/

namespace Callflow.Editor

open Json Value

def optionalText : Option String → Value
  | some s => .string s
  | none => .null

def Choice.encode : Choice → Value
  | .text s => .string s
  | .labelled t l => .object [("text", optionalText t), ("label", optionalText l)]

def VariableRef.encode : VariableRef → Value
  | .name s => .string s
  | .named s => .object [("name", .string s)]
  | .tuple items => .array items

def encodeList {α : Type} (encode : α → Value) (as : List α) : Value := .array (as.map encode)

def Payload.fields (p : Payload) : List (String × Value) :=
  fieldFor "text" .string p.text ++
  fieldFor "prompt" .string p.prompt ++
  fieldFor "label" .string p.label ++
  fieldFor "name" .string p.name ++
  fieldFor "isStart" .bool p.isStart ++
  fieldFor "extractVars" (encodeList VariableRef.encode) p.extractVars ++
  fieldFor "options" (encodeList Choice.encode) p.options ++
  fieldFor "variableName" .string p.variableName ++
  fieldFor "extractVariables" (encodeList VariableRef.encode) p.extractVariables ++
  fieldFor "transferNumber" .string p.transferNumber ++
  fieldFor "webhookUrl" .string p.webhookUrl ++
  fieldFor "webhookMethod" .string p.webhookMethod ++
  fieldFor "body" id p.body ++
  fieldFor "condition" .string p.condition

def Payload.encode (p : Payload) : Value := .object p.fields

def Node.encode (n : Node) : Value :=
  .object ([("id", .string n.id)] ++ fieldFor "type" .string n.type ++
    [("data", n.data.encode)])

def EdgeData.encode (d : EdgeData) : Value := .object (fieldFor "label" .string d.label)

def Edge.encode (e : Edge) : Value :=
  .object ([("id", .string e.id), ("source", .string e.source), ("target", .string e.target)] ++
    fieldFor "sourceHandle" .string e.sourceHandle ++
    fieldFor "targetHandle" .string e.targetHandle ++
    fieldFor "label" .string e.label ++
    fieldFor "data" EdgeData.encode e.data)

def Document.encode (d : Document) : Value :=
  .object ([("nodes", encodeList Node.encode d.nodes), ("edges", encodeList Edge.encode d.edges)] ++
    fieldFor "name" .string d.name ++
    fieldFor "description" .string d.description)

def Document.toValue (d : Document) : Value := d.encode.ordered

end Callflow.Editor
