import Callflow.Proofs.Branches
import Callflow.Proofs.Variables

/-!
The variables that branches test. The conditions are read for the edges and for the variables alike,
so the start asks for the variable of every branch that leaves it, once and as what it is.
-/

namespace Callflow

namespace Compile

variable {s : Settings} {c : Chart} {e : Chart.Edge} {n : Chart.Node} {found : Condition}

theorem mem_named_of_condition (startId : Option String) (hn : n ∈ c.usableNodes)
    (hcond : n.isConditional = true) (hfound : n.kind.condition? = some found) :
    found.variableName ∈
      Variables.named startId (conditionsOf c.clean.nodes) (n.tidy c.clean.nodeIds) := by
  have hlookup : (conditionsOf c.clean.nodes).lookup (n.tidy c.clean.nodeIds).id =
      some (some found) := by
    rw [lookup_conditionsOf c.clean_node_ids_nodup (Chart.tidy_mem_clean_nodes hn)]
    exact (if_pos hcond).trans (congrArg some hfound)
  cases hkind : n.kind with
  | conditional text =>
    apply List.mem_append_right
    have hkind' : (n.tidy c.clean.nodeIds).kind = .conditional text := hkind
    simp [hkind', hlookup]
  | _ => simp [Chart.Node.isConditional, Chart.Kind.isConditional, hkind] at hcond

theorem variableName_mem_distinct (h : IsBranchOf c e found) (startId : Option String) :
    found.variableName ∈ Variables.distinct (s.seedVariables ++
      c.clean.nodes.flatMap (Variables.named startId (conditionsOf c.clean.nodes))) := by
  obtain ⟨n, hn, _, hcond, hfound⟩ := h.exists_source
  have hlabel := (Chart.Kind.isRead_of_condition? hfound).isLabel_name
  refine Variables.mem_distinct.mpr
    ⟨hlabel.ne_empty, found.variableName, List.mem_append_right _ ?_, Text.trim_of_isLabel hlabel⟩
  exact List.mem_flatMap.mpr
    ⟨_, Chart.tidy_mem_clean_nodes hn, mem_named_of_condition startId hn hcond hfound⟩

theorem filter_name_asked (h : IsBranchOf c e found) :
    (asked s c).filter (·.name = found.variableName) =
      [Variables.describe s.integerVariables found.variableName] :=
  Variables.filter_name_collect (variableName_mem_distinct h _)

end Compile

open Compile

/-- The start asks once for the variable of every branch that is drawn from it, as for a whole number
if and only if it is set to be one. -/
theorem compile_tested_variables (s : Settings) (m : Metadata) (now : Int) (c : Chart) :
    ∃ start asked drawn,
      (compile s m now c).pathway.outputNodes.filter (·.isStart) = [start] ∧
      start.data.extractVars = some asked ∧
      (compile s m now c).pathway.edges = drawn ++ (connection? s c).toList ∧
      List.Forall₂ (fun e o => ∀ found, IsBranchOf c e found →
        o.source = start.id ∧ (o.label = found.trueLabel ∨ o.label = found.falseLabel) ∧
          ∃ v, asked.filter (·.name = found.variableName) = [v] ∧
            (v.type = .integer ↔ found.variableName ∈ s.integerVariables))
        c.drawnEdges drawn := by
  obtain ⟨start, hfilter, hid⟩ := filter_isStart_cast_designate s c
  refine ⟨Start.designate (asked s c) start, asked s c, (routed s c).edges, ?_, rfl,
    compile_edges s m now c, ?_⟩
  · rw [compile_outputNodes]
    exact hfilter
  · refine (routed_drawing s c).imp ?_
    intro e o h found hbranch
    obtain ⟨hsource, _, _, hlabel⟩ := h.of_branch hbranch
    refine ⟨hsource.trans hid.symm, ?_, _, filter_name_asked hbranch,
      Variables.type_describe s.integerVariables found.variableName⟩
    rw [hlabel]
    exact ite_eq_or_eq _ _ _

/-- Two conditionals test `Zip`, which is always a whole number; it is asked for once. -/
example : ((compile {} {} 0
    { nodes := [⟨"q", .question "Where?", none, none, false, []⟩,
        ⟨"low", .conditional "if (Zip < 500)", none, none, false, []⟩,
        ⟨"high", .conditional "if ( Zip > 900 )", none, none, false, []⟩]
      edges := [⟨"a", "low", "q", some "true", none, none, none⟩,
        ⟨"b", "high", "q", none, none, none, none⟩] }).pathway.outputNodes.filterMap
      fun n => n.data.extractVars.map (·.map fun v => (v.name, v.type))) =
    [[("Age", .integer), ("Zip", .integer)]] := by decide

end Callflow
