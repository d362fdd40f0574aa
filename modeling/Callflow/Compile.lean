import Callflow.Assembly
import Callflow.Calendar
import Callflow.Chart.Cleaned
import Callflow.Diagnostics

/-!
Compiling a chart into a pathway. It never fails: what is missing is added and what cannot be used
is left out, and the diagnostics say so.
-/

namespace Callflow

structure Metadata where
  name : Option String := none
  description : Option String := none
  deriving DecidableEq, Repr

structure Compiled where
  pathway : Pathway
  diagnostics : Diagnostics
  deriving DecidableEq, Repr

namespace Compile

open Text

def firstNonBlank? (a b : Option String) : Option String := (nonBlank? a).or (nonBlank? b)

def nameOf (m : Metadata) (now : Int) (c : Chart) : String :=
  (firstNonBlank? m.name c.name).getD ("Pathway " ++ Calendar.stamp now)

def descriptionOf (m : Metadata) (now : Int) (c : Chart) : String :=
  (firstNonBlank? m.description c.description).getD
    ("Pathway created " ++ Calendar.stamp now ++ " UTC")

def conditionsOf (nodes : List Chart.Node) : Conditions :=
  nodes.filterMap fun n =>
    match n.kind with
    | .conditional text => some (n.id, Condition.read? text)
    | _ => none

def unparsed (conditions : Conditions) : List String :=
  conditions.filterMap fun (id, c) => if c.isNone then some id else none

def chosen? (nodes : List Chart.Node) : Option (String × Start.Rule) := do
  let (i, rule) ← Start.select? nodes
  let n ← nodes[i]?
  some (n.id, rule)

def fallback? (s : Settings) (nodes : List Pathway.Node) : Option (String × Start.Rule) := do
  let (i, rule) ← Start.selectFallback? nodes s.greetingTerms
  let n ← nodes[i]?
  some (n.id, rule)

def updateFirst {α : Type} (p : α → Bool) (f : α → α) : List α → List α
  | [] => []
  | a :: rest => if p a then f a :: rest else a :: updateFirst p f rest

/-- The pathway without its edges: its nodes, the start among them. -/
structure Cast where
  nodes : List Pathway.Node
  added : List String
  start : Option (String × Start.Rule)
  deriving DecidableEq, Repr

def castOf (s : Settings) (g : Chart.Cleaned) (spoken : List Chart.Node)
    (conditions : Conditions) : Cast :=
  let chosen := chosen? spoken
  let asked := Variables.collect s.seedVariables s.integerVariables (chosen.map (·.1))
    conditions g.nodes
  let staffed := ((Assembly.Staffed.mk (spoken.map (Assembly.node s)) g.nodeIds []).withGreeting
    s).withClosing s
  let start := chosen.or (fallback? s staffed.nodes)
  let nodes := match start with
    | some (id, _) => updateFirst (·.id == id) (Start.designate asked) staffed.nodes
    | none => staffed.nodes
  ⟨nodes, staffed.added, start⟩

end Compile

/-- The pathway of a chart. `now` is the time in seconds since the start of 1970, for a pathway that
nobody named. -/
def compile (s : Settings) (m : Metadata) (now : Int) (c : Chart) : Compiled :=
  let g := c.clean
  let conditions := Compile.conditionsOf g.nodes
  let spoken := g.nodes.filter (!·.isConditional)
  let made := Compile.castOf s g spoken conditions
  let routed := Routing.route
    ⟨spoken, conditions, made.nodes.map (·.id), made.start.map (·.1)⟩ g.edgeIds g.edges
  let connection := (Assembly.connection? made.nodes routed.edges routed.ids).toList
  let (nodes, cleared) := Start.enforceSingle made.nodes
  { pathway :=
      { name := Compile.nameOf m now c
        description := Compile.descriptionOf m now c
        nodes := nodes.map .node ++ [.globalConfig ""]
        edges := routed.edges ++ connection }
    diagnostics :=
      { droppedNodes := g.droppedNodes
        droppedEdges := g.droppedEdges ++ routed.dropped
        unparsedConditions := Compile.unparsed conditions
        synthesized := made.added ++ connection.map (·.id)
        startRule := made.start.map (·.2)
        clearedStartFlags := cleared } }

end Callflow
