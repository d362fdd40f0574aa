import Callflow.IdTable
import Callflow.Variables

/-!
The edges of a pathway. Conditional nodes have no place in it: an edge into one is dropped, and an
edge out of one leaves the start node instead, under the label of its branch.
-/

namespace Callflow.Routing

open Text

def fallbackLabel : String := "next"

def responseTail? (handle : String) : Option (List Char) :=
  (Condition.after? "response-".toList handle.toList).or
    (Condition.after? "response_".toList handle.toList)

def indexLimit : Nat := 0x10000000000000000

/-- A number of ASCII digits, perhaps with a plus sign, below `2 ^ 64`. -/
def number? (cs : List Char) : Option Nat :=
  let digits := (Condition.after? ['+'] cs).getD cs
  if digits.isEmpty || !digits.all Char.isDigit then none
  else
    let n := digits.foldl (fun n c => n * 10 + (c.toNat - 48)) 0
    if n < indexLimit then some n else none

def responseIndex? (handle : String) : Option Nat := (responseTail? handle).bind number?

def optionLabel? (nodes : List Chart.Node) (e : Chart.Edge) : Option String := do
  let i ← responseIndex? (← e.sourceHandle)
  match (← nodes.findRev? (·.id = e.source)).kind with
  | .customerResponse _ options _ => trimmed? options[i]?
  | _ => none

/-- The first of the label of the data, the label and the option that is not blank. -/
def label (nodes : List Chart.Node) (e : Chart.Edge) : String :=
  (((trimmed? e.dataLabel).or (trimmed? e.label)).or (optionLabel? nodes e)).getD fallbackLabel

/-- What is known of the nodes when edges are routed: those of the chart that speak, the conditional
ones, those of the pathway, and the start. -/
structure Context where
  nodes : List Chart.Node
  conditions : Conditions
  outputIds : List String
  startId : Option String

/-- An edge that leaves the start under the label of its branch. -/
def reroot (ctx : Context) (condition : Option Condition) (startId : String) (ids : IdTable)
    (e : Chart.Edge) : Pathway.Edge × IdTable :=
  let text := match condition with
    | some c => c.labelFor e.sourceHandle
    | none => label ctx.nodes e
  let (id, ids) := ids.reserve (startId ++ "_" ++ Identifier.clean text ++ "_" ++ e.target)
  ({ Pathway.Edge.labelled id startId e.target text with targetHandle := e.targetHandle }, ids)

def keep (ctx : Context) (e : Chart.Edge) : Pathway.Edge :=
  { Pathway.Edge.labelled e.id e.source e.target (label ctx.nodes e) with
    sourceHandle := e.sourceHandle
    targetHandle := e.targetHandle }

def route? (ctx : Context) (ids : IdTable) (e : Chart.Edge) : Option (Pathway.Edge × IdTable) :=
  if e.target ∉ ctx.outputIds then none
  else
    match ctx.conditions.lookup e.source with
    | some condition => ctx.startId.map fun startId => reroot ctx condition startId ids e
    | none => if e.source ∈ ctx.outputIds then some (keep ctx e, ids) else none

structure Routed where
  edges : List Pathway.Edge := []
  ids : IdTable := {}
  dropped : List String := []
  deriving DecidableEq, Repr

def route (ctx : Context) (ids : IdTable) : List Chart.Edge → Routed
  | [] => { ids }
  | e :: rest =>
    match route? ctx ids e with
    | some (edge, ids) =>
      let r := route ctx ids rest
      { r with edges := edge :: r.edges }
    | none =>
      let r := route ctx ids rest
      { r with dropped := e.id :: r.dropped }

end Callflow.Routing
