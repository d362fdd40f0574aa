import Callflow.Pathway
import Callflow.Text.Quoted

/-!
The outline of a pathway: a line for the pathway, then a line for each node, each followed by a line
for every edge that leaves it.
-/

namespace Callflow.Pathway

def Node.line (n : Node) : String :=
  "  " ++ (if n.isStart then "*" else " ") ++ " " ++ n.id ++ " [" ++ n.type.name ++ "] " ++
    n.data.name ++ ": " ++ Text.quoted n.spokenText

def Edge.line (e : Edge) : String := "      --" ++ e.label ++ "--> " ++ e.target

def headLine (p : Pathway) : String := "Pathway: " ++ p.name ++ " (" ++ p.description ++ ")"

def outlineLines (p : Pathway) : List String :=
  p.headLine :: p.outputNodes.flatMap fun n =>
    n.line :: (p.edges.filter (·.source = n.id)).map Edge.line

def outline (p : Pathway) : String := String.intercalate "\n" p.outlineLines

end Callflow.Pathway
