import Callflow.Json.Ordered
import Callflow.Json.Writer
import Callflow.Pathway

/-!
A pathway as a JSON value, with the fields of each part in the order the provider lists them.
A value that is not there has no field.
-/

namespace Callflow.Pathway

open Json Value

def Variable.encode (v : Variable) : Value :=
  .array [.string v.name, .string v.type.name, .string v.description, .bool v.required]

def CallFlags.fields (f : CallFlags) : List (String × Value) :=
  fieldFor "isSMSReturnNode" .bool f.isSMSReturnNode ++
  fieldFor "skipUserResponse" .bool f.skipUserResponse ++
  fieldFor "disableEndCallTool" .bool f.disableEndCallTool ++
  fieldFor "block_interruptions" .bool f.blockInterruptions ++
  fieldFor "disableSilenceRepeat" .bool f.disableSilenceRepeat

def ModelOptions.encode (m : ModelOptions) : Value :=
  .object ([("modelType", .string m.modelType), ("temperature", .ofBinary64 m.temperature)] ++
    m.flags.fields)

def Content.field : Content → String × Value
  | .text s => ("text", .string s)
  | .prompt s => ("prompt", .string s)

def NodeData.encode (d : NodeData) : Value :=
  .object ([("name", .string d.name), d.content.field, ("isStart", .bool d.isStart),
      ("modelOptions", d.model.encode)] ++
    fieldFor "extractVars" (fun vs => .array (vs.map Variable.encode)) d.extractVars ++
    fieldFor "extractVarSettings" (fun _ => .object []) d.extractSettings ++
    fieldFor "transferNumber" .string d.transferNumber ++
    fieldFor "url" .string d.url ++
    fieldFor "method" .string d.method ++
    fieldFor "body" id d.body)

def Node.encode (n : Node) : Value :=
  .object [("id", .string n.id), ("type", .string n.type.name), ("data", n.data.encode)]

def Edge.encode (e : Edge) : Value :=
  .object ([("id", .string e.id), ("source", .string e.source), ("target", .string e.target),
      ("label", .string e.label)] ++
    fieldFor "sourceHandle" .string e.sourceHandle ++
    fieldFor "targetHandle" .string e.targetHandle ++
    [("data", .object [("label", .string e.dataLabel)])])

def Entry.encode : Entry → Value
  | .node n => n.encode
  | .globalConfig prompt => .object [("globalConfig", .object [("globalPrompt", .string prompt)])]

def encode (p : Pathway) : Value :=
  .object [("name", .string p.name), ("description", .string p.description),
    ("nodes", .array (p.nodes.map Entry.encode)), ("edges", .array (p.edges.map Edge.encode))]

def toValue (p : Pathway) : Value := p.encode.ordered

def toJson (p : Pathway) : String := p.encode.compact

def toPrettyJson (p : Pathway) : String := p.encode.pretty

end Callflow.Pathway
