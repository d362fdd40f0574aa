import Callflow.Proofs.Drawing
import Callflow.Proofs.Handle

/-!
The branches of a conditional leave the start, each under the right label: that of the true branch
for an edge that leaves the conditional by the handle `true`, that of the other one for every other
edge, whatever the nodes of the chart are called.
-/

namespace Callflow

namespace Compile

variable (s : Settings) {c : Chart} {e : Chart.Edge} {o : Pathway.Edge}

/-- An edge leaves a conditional whose condition is read as this one. -/
def IsBranchOf (c : Chart) (e : Chart.Edge) (found : Condition) : Prop :=
  ∃ n ∈ c.usableNodes, n.id = e.source ∧
    ∃ text, n.kind = .conditional text ∧ Condition.read? text = some found

theorem IsBranchOf.exists_source {found : Condition} (h : IsBranchOf c e found) :
    ∃ n ∈ c.usableNodes, n.id = e.source ∧ n.isConditional = true ∧
      n.kind.condition? = some found := by
  obtain ⟨n, hn, hsource, text, hkind, hread⟩ := h
  exact ⟨n, hn, hsource, by rw [Chart.Node.isConditional, hkind]; rfl,
    by rw [hkind, ← hread]; rfl⟩

theorem labelFor_cleanHandle (found : Condition) (handle : Option String) :
    found.labelFor (Chart.cleanHandle c.clean.nodeIds handle) =
      if handle = some "true" then found.trueLabel else found.falseLabel := by
  have hiff : Chart.cleanHandle c.clean.nodeIds handle = some "true" ↔ handle = some "true" :=
    Chart.cleanHandle_eq_some_iff (by decide) (by decide) (by decide)
  rw [Condition.labelFor]
  exact if_congr hiff rfl rfl

theorem IsDrawing.of_branch (h : IsDrawing c e o) {found : Condition}
    (hbranch : IsBranchOf c e found) :
    o.source = startId c ∧ o.target = c.idOf e.target ∧ o.sourceHandle = none ∧
      o.label = if e.sourceHandle = some "true" then found.trueLabel else found.falseLabel := by
  obtain ⟨n, hn, hsource, hkind, hfound⟩ := hbranch.exists_source
  have hcond : c.isConditionalNode e.source = true :=
    (isConditionalNode_source hn hsource).trans hkind
  refine ⟨?_, h.target, ?_, ?_⟩
  · rw [h.source, drawnSource, hcond, if_pos rfl]
  · rw [h.sourceHandle, hcond, if_pos rfl]
  · rw [h.label n hn hsource, Chart.Kind.labelOf, hfound]
    exact labelFor_cleanHandle found e.sourceHandle

end Compile

open Compile

/-- Of the edges that lead to a node that speaks, each that leaves a conditional with a condition is
drawn from the start under the label of its branch. -/
theorem compile_branch_labels (s : Settings) (m : Metadata) (now : Int) (c : Chart) :
    ∃ start drawn,
      (compile s m now c).pathway.outputNodes.filter (·.isStart) = [start] ∧
      (compile s m now c).pathway.edges = drawn ++ (connection? s c).toList ∧
      List.Forall₂ (fun e o => ∀ found, IsBranchOf c e found →
        o.source = start.id ∧ o.target = c.idOf e.target ∧ o.sourceHandle = none ∧
          o.label = if e.sourceHandle = some "true" then found.trueLabel else found.falseLabel)
        c.drawnEdges drawn := by
  obtain ⟨start, hfilter, hid⟩ := filter_isStart_cast s c
  refine ⟨start, (routed s c).edges, ?_, compile_edges s m now c, ?_⟩
  · rw [compile_outputNodes]
    exact hfilter
  · refine (routed_drawing s c).imp ?_
    intro e o h found hbranch
    rw [hid]
    exact h.of_branch hbranch

/-- The first of these nodes is called `true`, and so is the handle of the first edge; the handle of
the second one is not. -/
example : ((compile {} {} 0
    { nodes := [⟨"true", .question "Yes?", none, none, false, []⟩,
        ⟨"true ", .question "No?", none, none, false, []⟩,
        ⟨"age", .conditional "if (Age <= 65)", none, none, false, []⟩]
      edges := [⟨"a", "age", "true", some "true", none, none, none⟩,
        ⟨"b", "age", "true ", some "true ", none, none, none⟩] }).pathway.edges.map
      fun o => (o.source, o.target, o.label)) =
    [("true", "true", "Age<=65"), ("true", "true_", "Age>65")] := by decide

end Callflow
