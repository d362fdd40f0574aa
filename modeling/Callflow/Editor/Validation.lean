import Callflow.Editor.Decode
import Callflow.Editor.TypeTag

/-!
What can be kept of a document that may have any shape, and an issue for what is mended or left out.
Only a document without a list of nodes is of no use.
-/

namespace Callflow.Editor

open Json

inductive Issue where
  | notObject
  | nodesMissing
  | nodesNotArray
  | edgesMissing
  | edgesNotArray
  | nodeNotObject (index : Nat)
  | nodeWithoutId (index : Nat)
  | nodeRepeated (id : String)
  | typeUnknown (id tag : String)
  | typeMissing (id : String)
  | dataNotObject (id : String)
  | fieldMalformed (id key : String) (mismatch : Mismatch)
  | dataMalformed (id : String) (mismatch : Mismatch)
  | edgeNotObject (index : Nat)
  | edgeWithoutEnds (index : Nat)
  | edgeToNowhere (source target : String)
  | edgeWithoutId (source target id : String)
  deriving DecidableEq, Repr

def fallbackTag : String := "question"

def Issue.message : Issue → String
  | .notObject => "Flowchart must be a JSON object"
  | .nodesMissing => "Flowchart is missing a 'nodes' list"
  | .nodesNotArray => "'nodes' must be an array"
  | .edgesMissing => "Flowchart is missing an 'edges' list"
  | .edgesNotArray => "'edges' must be an array; ignoring all edges"
  | .nodeNotObject index => "Node at index " ++ toString index ++ " is not an object"
  | .nodeWithoutId index => "Node at index " ++ toString index ++ " has no string id; dropped"
  | .nodeRepeated id => "Duplicate node id '" ++ id ++ "'; keeping the first"
  | .typeUnknown id tag =>
    "Node '" ++ id ++ "' has unknown type '" ++ tag ++ "'; using '" ++ fallbackTag ++ "'"
  | .typeMissing id => "Node '" ++ id ++ "' has no type; using '" ++ fallbackTag ++ "'"
  | .dataNotObject id => "Node '" ++ id ++ "' has non-object data; using empty data"
  | .fieldMalformed id key mismatch =>
    "Node '" ++ id ++ "' has malformed field '" ++ key ++ "' (" ++ mismatch.message ++
      "); ignoring it"
  | .dataMalformed id mismatch =>
    "Node '" ++ id ++ "' has malformed data (" ++ mismatch.message ++ "); using empty data"
  | .edgeNotObject index => "Edge at index " ++ toString index ++ " is not an object"
  | .edgeWithoutEnds index =>
    "Edge at index " ++ toString index ++ " has no string source/target; dropped"
  | .edgeToNowhere source target =>
    "Edge " ++ source ++ " -> " ++ target ++ " references an unknown node; dropped"
  | .edgeWithoutId source target id =>
    "Edge " ++ source ++ " -> " ++ target ++ " has no id; using '" ++ id ++ "'"

/-- Something kept or nothing, and the issues of it. -/
abbrev Checked (α : Type) := α × List Issue

/-- A text under a key; anything else there is passed over. -/
def text? (fields : List (String × Value)) (key : String) : Option String :=
  (fields.lookup key).bind Value.string?

def nonEmpty? (s : Option String) : Option String := s.filter (· ≠ "")

def checkTag (id : String) (tag : Option String) : Checked String :=
  match tag with
  | some tag =>
    if (NodeType.ofTag? tag).isSome then (tag, []) else (fallbackTag, [.typeUnknown id tag])
  | none => (fallbackTag, [.typeMissing id])

def fieldIssue? (id : String) (field : String × Value) : Option Issue :=
  match Payload.decode (.object [field]) with
  | .ok _ => none
  | .error m => some (.fieldMalformed id field.1 m)

/-- A payload without the fields that cannot be read by themselves, if it cannot be read as it
stands. -/
def checkFields (id : String) (fields : List (String × Value)) : Checked Payload :=
  match Payload.decode (.object fields) with
  | .ok p => (p, [])
  | .error _ =>
    let issues := fields.filterMap (fieldIssue? id)
    match Payload.decode (.object (fields.filter fun f => (fieldIssue? id f).isNone)) with
    | .ok p => (p, issues)
    | .error m => ({}, issues ++ [.dataMalformed id m])

def checkData (id : String) (data : Option Value) : Checked Payload :=
  match data with
  | none | some .null => ({}, [])
  | some (.object fields) => checkFields id fields
  | some _ => ({}, [.dataNotObject id])

def checkNode (seen : List String) (index : Nat) (v : Value) : Checked (Option Node) :=
  match v with
  | .object fields =>
    match nonEmpty? (text? fields "id") with
    | none => (none, [.nodeWithoutId index])
    | some id =>
      if id ∈ seen then (none, [.nodeRepeated id])
      else
        let (tag, tagIssues) := checkTag id (text? fields "type")
        let (data, dataIssues) := checkData id (fields.lookup "data")
        (some ⟨id, some tag, data⟩, tagIssues ++ dataIssues)
  | _ => (none, [.nodeNotObject index])

def checkNodes (seen : List String) (index : Nat) : List Value → Checked (List Node)
  | [] => ([], [])
  | v :: rest =>
    match checkNode seen index v with
    | (some n, issues) =>
      let (nodes, more) := checkNodes (n.id :: seen) (index + 1) rest
      (n :: nodes, issues ++ more)
    | (none, issues) =>
      let (nodes, more) := checkNodes seen (index + 1) rest
      (nodes, issues ++ more)

/-- An edge between known nodes, with an identifier made of its ends if it has none. -/
def checkEdge (known : List String) (index : Nat) (v : Value) : Checked (Option Edge) :=
  match v with
  | .object fields =>
    match text? fields "source", text? fields "target" with
    | some source, some target =>
      if source ∈ known ∧ target ∈ known then
        let made := "e-" ++ source ++ "-" ++ target
        let (id, issues) := match nonEmpty? (text? fields "id") with
          | some id => (id, [])
          | none => (made, [.edgeWithoutId source target made])
        (some {
          id, source, target
          sourceHandle := text? fields "sourceHandle"
          targetHandle := text? fields "targetHandle"
          label := text? fields "label"
          data := ((fields.lookup "data").bind Value.object?).map fun d => ⟨text? d "label"⟩ },
          issues)
      else (none, [.edgeToNowhere source target])
    | _, _ => (none, [.edgeWithoutEnds index])
  | _ => (none, [.edgeNotObject index])

def checkEdges (known : List String) (index : Nat) : List Value → Checked (List Edge)
  | [] => ([], [])
  | v :: rest =>
    let (edge, issues) := checkEdge known index v
    let (edges, more) := checkEdges known (index + 1) rest
    (edge.toList ++ edges, issues ++ more)

structure Report where
  issues : List Issue := []
  hasNodeList : Bool := false
  nodes : List Node := []
  edges : List Edge := []
  name : Option String := none
  description : Option String := none
  deriving DecidableEq, Repr

namespace Report

def isValid (r : Report) : Bool := r.issues.isEmpty

def messages (r : Report) : List String := r.issues.map Issue.message

def toDocument (r : Report) : Document := ⟨r.nodes, r.edges, r.name, r.description⟩

end Report

def validate : Value → Report
  | .object fields =>
    let start : Report := { name := text? fields "name", description := text? fields "description" }
    match fields.lookup "nodes" with
    | some (.array vs) =>
      let (nodes, nodeIssues) := checkNodes [] 0 vs
      let (edges, edgeIssues) := match fields.lookup "edges" with
        | some (.array es) => checkEdges (nodes.map (·.id)) 0 es
        | some _ => ([], [.edgesNotArray])
        | none => ([], [.edgesMissing])
      { start with hasNodeList := true, nodes, edges, issues := nodeIssues ++ edgeIssues }
    | some _ => { start with issues := [.nodesNotArray] }
    | none => { start with issues := [.nodesMissing] }
  | _ => { issues := [.notObject] }

end Callflow.Editor
