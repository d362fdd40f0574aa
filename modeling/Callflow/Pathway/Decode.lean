import Callflow.Json.Record
import Callflow.Pathway

/-!
A pathway from a JSON value. An entry of its list of nodes is a node if it can be read as one, and
else the global configuration. A node says its `text`, if that is a string, and else its `prompt`.
-/

namespace Callflow.Pathway

open Json

def NodeType.all : List NodeType := [.default, .endCall, .transferCall, .webhook]

def NodeType.decode : Decoder NodeType := Decoder.name (all.map fun t => (t.name, t))

def VariableType.all : List VariableType := [.string, .integer, .boolean]

def VariableType.decode : Decoder VariableType := Decoder.name (all.map fun t => (t.name, t))

def Variable.record : Record Variable :=
  Variable.mk <$> .required "name" Decoder.text <*> .required "type" VariableType.decode <*>
    .required "description" Decoder.text <*> .required "required" Decoder.flag

def Variable.decode : Decoder Variable := Variable.record.decodeTuple

def ExtractSettings.decode : Decoder ExtractSettings :=
  Record.decode "ExtractVarSettings" (pure ⟨⟩)

def ModelOptions.record : Record ModelOptions :=
  (fun modelType temperature sms skip endCall block silence =>
      ⟨modelType, temperature, ⟨sms, skip, endCall, block, silence⟩⟩) <$>
    .required "modelType" Decoder.text <*> .required "temperature" Decoder.real <*>
    .optional "isSMSReturnNode" Decoder.flag <*> .optional "skipUserResponse" Decoder.flag <*>
    .optional "disableEndCallTool" Decoder.flag <*>
    .optional "block_interruptions" Decoder.flag <*>
    .optional "disableSilenceRepeat" Decoder.flag

def ModelOptions.decode : Decoder ModelOptions := ModelOptions.record.decode "ModelOptions"

/-- The content among the fields that nothing else reads. -/
def Content.ofFields (fields : List (String × Value)) : Except Mismatch Content :=
  match (fields.lookup "text").bind Value.string?, (fields.lookup "prompt").bind Value.string? with
  | some s, _ => .ok (.text s)
  | none, some s => .ok (.prompt s)
  | none, none => .error (.noAlternative "NodeContent")

def NodeData.record : Record (Content → NodeData) :=
  (fun name isStart model vars settings number url method body content =>
      ⟨name, content, isStart, model, vars, settings, number, url, method, body⟩) <$>
    .required "name" Decoder.text <*> .required "isStart" Decoder.flag <*>
    .required "modelOptions" ModelOptions.decode <*>
    .optional "extractVars" (Decoder.list Variable.decode) <*>
    .optional "extractVarSettings" ExtractSettings.decode <*>
    .optional "transferNumber" Decoder.text <*> .optional "url" Decoder.text <*>
    .optional "method" Decoder.text <*> .optional "body" Decoder.any

def NodeData.decode : Decoder NodeData
  | .object fields => do
    let data ← NodeData.record.ofFields fields
    let content ← Content.ofFields fields
    .ok (data content)
  | v => Decoder.refuse v (.record "NodeData")

def Node.record : Record Node :=
  Node.mk <$> .required "id" Decoder.text <*> .required "type" NodeType.decode <*>
    .required "data" NodeData.decode

def Node.decode : Decoder Node := Node.record.decode "OutputNode"

def EdgeData.decode : Decoder String :=
  (Record.required "label" Decoder.text).decode "EdgeData"

def Edge.record : Record Edge :=
  Edge.mk <$> .required "id" Decoder.text <*> .required "source" Decoder.text <*>
    .required "target" Decoder.text <*> .required "label" Decoder.text <*>
    .optional "sourceHandle" Decoder.text <*> .optional "targetHandle" Decoder.text <*>
    .required "data" EdgeData.decode

def Edge.decode : Decoder Edge := Edge.record.decode "OutputEdge"

def GlobalConfig.decode : Decoder String :=
  (Record.required "globalPrompt" Decoder.text).decode "GlobalConfig"

def Entry.decode : Decoder Entry :=
  Decoder.choose "PathwayEntry" [
    fun v => (Node.decode v).toOption.map .node,
    fun v => ((Record.required "globalConfig" GlobalConfig.decode).decodeObject "PathwayEntry"
      v).toOption.map .globalConfig]

def record : Record Pathway :=
  Pathway.mk <$> .required "name" Decoder.text <*> .required "description" Decoder.text <*>
    .required "nodes" (Decoder.list Entry.decode) <*> .required "edges" (Decoder.list Edge.decode)

def decode : Decoder Pathway := record.decode "Pathway"

end Callflow.Pathway
