import Callflow.Start

/-!
What a compilation mended or left out, and its summary: a line for each kind of thing there is
something to say about.
-/

namespace Callflow

structure Diagnostics where
  issues : List String := []
  /-- The nodes that were left out, by the identifiers the chart gives them. -/
  droppedNodes : List String := []
  /-- The edges that were left out: those of no use by the identifiers the chart gives them, those
  into a conditional by their clean ones. -/
  droppedEdges : List String := []
  unparsedConditions : List String := []
  synthesized : List String := []
  startRule : Option Start.Rule := none
  clearedStartFlags : Nat := 0
  deriving DecidableEq, Repr

namespace Diagnostics

def commas (ids : List String) : String := String.intercalate ", " ids

def shown (id : String) : String := if id = "" then "<missing id>" else id

def lineFor (title : String) (ids : List String) : List String :=
  if ids.isEmpty then [] else [title ++ ": " ++ commas ids]

def lines (d : Diagnostics) : List String :=
  d.issues.map ("issue: " ++ ·) ++
  lineFor "dropped nodes" (d.droppedNodes.map shown) ++
  lineFor "dropped edges" (d.droppedEdges.map shown) ++
  lineFor "unparsed conditions" d.unparsedConditions ++
  lineFor "synthesized" d.synthesized ++
  if d.clearedStartFlags = 0 then []
  else ["cleared " ++ toString d.clearedStartFlags ++ " extra start flag(s)"]

def summary? (d : Diagnostics) : Option String :=
  if d.lines.isEmpty then none else some (String.intercalate "\n" d.lines)

end Diagnostics

end Callflow
