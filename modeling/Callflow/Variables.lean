import Callflow.Chart
import Callflow.Condition
import Callflow.Pathway
import Callflow.Settings

/-!
The variables a pathway asks for: those that are always asked for, then those that the nodes of its
chart read or extract, each once, in the order of first mention.
-/

namespace Callflow

abbrev Conditions := List (String × Option Condition)

namespace Variables

open Text

/-- What a node names. Only the start node is asked for its own list. -/
def named (startId : Option String) (conditions : Conditions) (n : Chart.Node) : List String :=
  (if startId = some n.id then n.extractVars else []) ++
    match n.kind with
    | .customerResponse _ _ variableName => variableName.toList
    | .response _ names => names
    | .conditional _ => ((conditions.lookup n.id).join.map (·.variableName)).toList
    | _ => []

def describe (integers : List String) (name : String) : Pathway.Variable where
  name := name
  type := if name ∈ integers then .integer else .string
  description := "The caller's " ++ name
  required := false

def distinct (names : List String) : List String :=
  ((names.map trim).filter (· ≠ "")).eraseDups

def collect (seeds integers : List String) (startId : Option String) (conditions : Conditions)
    (nodes : List Chart.Node) : List Pathway.Variable :=
  (distinct (seeds ++ nodes.flatMap (named startId conditions))).map (describe integers)

end Variables

end Callflow
