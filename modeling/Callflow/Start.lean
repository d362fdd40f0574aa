import Callflow.Chart
import Callflow.Greeting
import Callflow.Pathway

/-!
The start node: which node of a chart becomes it, and what it has that no other node has.
-/

namespace Callflow.Start

def startName : String := "Start"

inductive Rule where
  | greeting
  | startMarker
  | firstNode
  /-- The first plain node of the pathway whose text greets. -/
  | greetingText
  /-- The first node of the pathway. -/
  | fallback
  deriving DecidableEq, Repr

def Rule.name : Rule → String
  | .greeting => "Greeting"
  | .startMarker => "StartMarker"
  | .firstNode => "FirstNode"
  | .greetingText => "GreetingText"
  | .fallback => "Fallback"

def isMarked (n : Chart.Node) : Bool := n.label == some startName || n.name == some startName

def Rule.accepts : Rule → Chart.Node → Bool
  | .greeting, n => n.kind.isGreeting
  | .startMarker, n => isMarked n
  | .firstNode, _ => true
  | .greetingText, _ | .fallback, _ => false

def Rule.find? (r : Rule) (nodes : List Chart.Node) : Option Nat := nodes.findIdx? r.accepts

/-- The rules for a chart; the first that finds a node decides. -/
def chartRules : List Rule := [.greeting, .startMarker, .firstNode]

def select? (nodes : List Chart.Node) : Option (Nat × Rule) :=
  chartRules.findSome? fun r => (r.find? nodes).map fun i => (i, r)

/-- The start of a pathway whose chart gave none. -/
def selectFallback? (nodes : List Pathway.Node) (terms : List String) : Option (Nat × Rule) :=
  let greets (n : Pathway.Node) : Bool :=
    n.type == .default && Greeting.mentions n.spokenText terms
  match nodes.findIdx? greets with
  | some i => some (i, .greetingText)
  | none => if nodes.isEmpty then none else some (0, .fallback)

def designate (asked : List Pathway.Variable) (n : Pathway.Node) : Pathway.Node :=
  { n with data := { n.data with
      name := startName
      isStart := true
      model := { n.data.model with flags := .start }
      extractVars := some asked
      extractSettings := some ⟨⟩ } }

/-- Takes from a node what only a start has, but for its name. -/
def clear (n : Pathway.Node) : Pathway.Node :=
  { n with data := { n.data with
      isStart := false
      model := { n.data.model with flags := {} }
      extractVars := none
      extractSettings := none } }

def clearStarts : List Pathway.Node → List Pathway.Node × Nat
  | [] => ([], 0)
  | n :: rest =>
    let (nodes, cleared) := clearStarts rest
    if n.isStart then (clear n :: nodes, cleared + 1) else (n :: nodes, cleared)

def enforceSingle : List Pathway.Node → List Pathway.Node × Nat
  | [] => ([], 0)
  | n :: rest =>
    let (nodes, cleared) := if n.isStart then clearStarts rest else enforceSingle rest
    (n :: nodes, cleared)

end Callflow.Start
