import Callflow.Chart
import Callflow.IdTable

/-!
A chart with clean identifiers. Nodes without an identifier and all but the first of those with one
identifier are left out, and so are edges without one and edges from or to a node that is not
there. Edges with one identifier are all kept, each under its own.
-/

namespace Callflow.Chart

structure Cleaned where
  nodes : List Node := []
  edges : List Edge := []
  nodeIds : IdTable := {}
  edgeIds : IdTable := {}
  droppedNodes : List String := []
  droppedEdges : List String := []
  deriving DecidableEq, Repr

/-- A handle that names a node is the identifier of that node, any other is cleaned. -/
def cleanHandle (nodeIds : IdTable) (handle : Option String) : Option String :=
  (handle.filter (· ≠ "")).map fun h => (nodeIds.get? h).getD (Identifier.clean h)

namespace Cleaned

def addNode (g : Cleaned) (n : Node) : Cleaned :=
  if n.id = "" ∨ g.nodeIds.contains n.id then
    { g with droppedNodes := g.droppedNodes ++ [n.id] }
  else
    let (id, ids) := g.nodeIds.insert n.id
    { g with nodes := g.nodes ++ [{ n with id := id }], nodeIds := ids }

/-- The edge between the nodes that its ends name, if it has an identifier and they are there. -/
def resolve? (nodeIds : IdTable) (e : Edge) : Option Edge :=
  if e.id = "" then none
  else
    match nodeIds.get? e.source, nodeIds.get? e.target with
    | some source, some target => some { e with
        source, target
        sourceHandle := cleanHandle nodeIds e.sourceHandle
        targetHandle := cleanHandle nodeIds e.targetHandle }
    | _, _ => none

def addEdge (g : Cleaned) (e : Edge) : Cleaned :=
  match resolve? g.nodeIds e with
  | none => { g with droppedEdges := g.droppedEdges ++ [e.id] }
  | some resolved =>
    let (id, ids) := g.edgeIds.reserve e.id
    { g with edges := g.edges ++ [{ resolved with id := id }], edgeIds := ids }

end Cleaned

def clean (c : Chart) : Cleaned :=
  c.edges.foldl Cleaned.addEdge (c.nodes.foldl Cleaned.addNode {})

end Callflow.Chart
