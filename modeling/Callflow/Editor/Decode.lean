import Callflow.Editor
import Callflow.Json.Record

/-!
An editor document from a JSON value. The first thing that has not the shape of the document is
refused; nothing is mended here.
-/

namespace Callflow.Editor

open Json

/-- An optional text of an object, unless there is something else under its key. -/
def textField? (fields : List (String × Value)) (key : String) : Option (Option String) :=
  match fields.lookup key with
  | none | some .null => some none
  | some (.string s) => some (some s)
  | some _ => none

def Choice.decode : Decoder Choice :=
  Decoder.choose "UiOption" [
    fun v => v.string?.map .text,
    fun v => do
      let fields ← v.object?
      let text ← textField? fields "text"
      let label ← textField? fields "label"
      some (.labelled text label)]

def VariableRef.decode : Decoder VariableRef :=
  Decoder.choose "UiVariableRef" [
    fun v => v.string?.map .name,
    fun v => (v.object?.bind fun fields => (fields.lookup "name").bind Value.string?).map .named,
    fun
      | .array items => some (.tuple items)
      | _ => none]

def Payload.record : Record Payload :=
  Payload.mk <$> .optional "text" Decoder.text <*> .optional "prompt" Decoder.text <*>
    .optional "label" Decoder.text <*> .optional "name" Decoder.text <*>
    .optional "isStart" Decoder.flag <*>
    .optional "extractVars" (Decoder.list VariableRef.decode) <*>
    .optional "options" (Decoder.list Choice.decode) <*>
    .optional "variableName" Decoder.text <*>
    .optional "extractVariables" (Decoder.list VariableRef.decode) <*>
    .optional "transferNumber" Decoder.text <*> .spelledTwice "webhookUrl" "url" Decoder.text <*>
    .spelledTwice "webhookMethod" "method" Decoder.text <*> .optional "body" Decoder.any <*>
    .optional "condition" Decoder.text

def Payload.decode : Decoder Payload := Payload.record.decode "UiNodeData"

def Node.record : Record Node :=
  Node.mk <$> .required "id" Decoder.text <*> .optional "type" Decoder.text <*>
    .withDefault {} "data" Payload.decode

def Node.decode : Decoder Node := Node.record.decode "UiNode"

def EdgeData.record : Record EdgeData := EdgeData.mk <$> .optional "label" Decoder.text

def EdgeData.decode : Decoder EdgeData := EdgeData.record.decode "UiEdgeData"

def Edge.record : Record Edge :=
  Edge.mk <$> .required "id" Decoder.text <*> .required "source" Decoder.text <*>
    .required "target" Decoder.text <*> .optional "sourceHandle" Decoder.text <*>
    .optional "targetHandle" Decoder.text <*> .optional "label" Decoder.text <*>
    .optional "data" EdgeData.decode

def Edge.decode : Decoder Edge := Edge.record.decode "UiEdge"

def Document.record : Record Document :=
  Document.mk <$> .required "nodes" (Decoder.list Node.decode) <*>
    .withDefault [] "edges" (Decoder.list Edge.decode) <*>
    .optional "name" Decoder.text <*> .optional "description" Decoder.text

def Document.decode : Decoder Document := Document.record.decode "UiFlowchart"

end Callflow.Editor
