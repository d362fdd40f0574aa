import Callflow.Document
import Callflow.Proofs.Accounting
import Callflow.Proofs.Drawing
import Callflow.Proofs.Validation

/-!
A document that was checked. All that a check keeps is of use, so of the chart that is compiled only
the edges into conditionals are lost.
-/

namespace Callflow

namespace Compile

variable {s : Settings} {m : Metadata} {now : Int} {c : Chart}

theorem length_compile_edges (s : Settings) (m : Metadata) (now : Int) (c : Chart) :
    (compile s m now c).pathway.edges.length =
      c.drawnEdges.length + if c.drawnEdges.length = 0 then 1 else 0 := by
  have hlength := (routed_drawing s c).length_eq
  have hnil : (routed s c).edges = [] ↔ c.drawnEdges.length = 0 := by
    rw [hlength, List.length_eq_zero_iff]
  obtain ⟨a, b, _, _, hconnection⟩ := exists_connection?_eq s c
  rw [compile_edges, List.length_append, ← hlength, hconnection, if_congr hnil rfl rfl]
  split <;> rfl

theorem edgeClass_eq_intoConditional {e : Chart.Edge} (he : e ∈ c.usableEdges) :
    decide (c.edgeClass e = .intoConditional) = c.isConditionalNode e.target := by
  have hu := (List.mem_filter.mp he).2
  cases ht : c.isConditionalNode e.target with
  | true => simp [Chart.edgeClass, hu, ht]
  | false => cases hs : c.isConditionalNode e.source <;> simp [Chart.edgeClass, hu, ht, hs]

theorem droppedEdges_of_usable (h : c.usableEdges = c.edges) :
    (compile s m now c).diagnostics.droppedEdges =
      ((c.edges.zip c.clean.edges).filter fun x => c.isConditionalNode x.1.target).map (·.2.id) := by
  have hnone : c.clean.droppedEdges = [] := by
    rw [Chart.clean_droppedEdges, List.map_eq_nil_iff, List.filter_eq_nil_iff]
    intro e he
    rw [← h] at he
    simp [(List.mem_filter.mp he).2]
  rw [compile_droppedEdges, hnone, routed_dropped, List.nil_append, Chart.cleanedEdges, h]
  congr 1
  refine List.filter_congr ?_
  intro x hx
  exact edgeClass_eq_intoConditional (h ▸ (List.of_mem_zip hx).1)

theorem length_drawnEdges_add (h : c.usableEdges = c.edges) :
    c.drawnEdges.length + (compile s m now c).diagnostics.droppedEdges.length = c.edges.length := by
  have hlength : c.edges.length ≤ c.clean.edges.length := by
    rw [← h]
    exact c.clean_edges.length_eq.le
  -- What is lost is counted on the edges of the chart: the clean ones stand beside them one by one.
  have hlost : (compile s m now c).diagnostics.droppedEdges.length =
      (c.edges.filter (c.isConditionalNode ·.target)).length := by
    conv_rhs => rw [← List.map_fst_zip hlength, List.filter_map, List.length_map]
    rw [droppedEdges_of_usable h, List.length_map]
    rfl
  rw [hlost, Chart.drawnEdges, h, Nat.add_comm]
  exact (List.length_eq_length_filter_add _).symm

end Compile

namespace Editor

structure Document.IsChecked (u : Document) : Prop where
  ids_nodup : (u.nodes.map (·.id)).Nodup
  id_ne_empty : ∀ n ∈ u.nodes, n.id ≠ ""
  edges : ∀ e ∈ u.edges, e.IsKept (u.nodes.map (·.id))

theorem isChecked_validate {d : Json.Value} (h : (validate d).hasNodeList = true) :
    (validate d).toDocument.IsChecked := by
  obtain ⟨fields, vs, rfl, hnodes⟩ := exists_of_hasNodeList h
  rw [validate_object hnodes]
  obtain ⟨hkept, hnodup⟩ := forall_checkNodes [] 0 vs fun _ _ _ _ _ hcheck =>
    (id_checkNode hcheck).1
  exact ⟨hnodup, fun n hn => (hkept n hn).1, isKept_checkEdgeList _ _⟩

def Document.leadsToConditional (u : Document) (e : Edge) : Bool :=
  u.nodes.any fun n => n.id == e.target && n.nodeType == .conditional

theorem isConditional_toChart (n : Node) :
    n.toChart.isConditional = (n.nodeType == .conditional) := by
  rw [Chart.Node.isConditional, Node.toChart]
  cases n.nodeType <;> rfl

namespace Document.IsChecked

variable {u : Document}

theorem usable_nodes (h : u.IsChecked) :
    u.toChart.usableNodes = u.toChart.nodes ∧ Chart.unusable u.toChart.nodes = [] := by
  have hids : u.toChart.nodes.map (·.id) = u.nodes.map (·.id) := by
    rw [toChart, List.map_map]
    rfl
  refine Chart.usable_eq_self (hids ▸ h.ids_nodup) ?_
  intro n hn
  obtain ⟨k, hk, rfl⟩ := List.mem_map.mp hn
  exact h.id_ne_empty k hk

theorem isNode (h : u.IsChecked) {key : String} (hkey : key ∈ u.nodes.map (·.id)) :
    u.toChart.isNode key = true := by
  rw [Chart.isNode_iff, h.usable_nodes.1, toChart, List.map_map]
  exact hkey

theorem usableEdges (h : u.IsChecked) : u.toChart.usableEdges = u.toChart.edges := by
  refine List.filter_eq_self.mpr ?_
  intro e he
  obtain ⟨k, hk, rfl⟩ := List.mem_map.mp he
  have hedge := h.edges k hk
  exact Chart.isUsableEdge_iff.mpr ⟨hedge.id, h.isNode hedge.source, h.isNode hedge.target⟩

theorem isConditionalNode_target (h : u.IsChecked) (e : Edge) :
    u.toChart.isConditionalNode e.toChart.target = u.leadsToConditional e := by
  rw [Chart.isConditionalNode, h.usable_nodes.1, toChart, List.any_map, leadsToConditional]
  congr 1
  funext n
  rw [Function.comp_apply, isConditional_toChart]
  rfl

end Document.IsChecked

end Editor

open Compile Editor

/-- What is lost of a document: the edges into conditionals, by the identifiers they have once the
chart is cleaned. All others are drawn, and if there is none, one edge is added. -/
structure LosesIntoConditionals (u : Document) (compiled : Compiled) : Prop where
  droppedNodes : compiled.diagnostics.droppedNodes = []
  cleaned : List.Forall₂
    (fun e e' => e' = { e.toChart.tidy u.toChart.clean.nodeIds with id := e'.id })
    u.edges u.toChart.clean.edges
  droppedEdges : compiled.diagnostics.droppedEdges =
    ((u.edges.zip u.toChart.clean.edges).filter fun x => u.leadsToConditional x.1).map (·.2.id)
  drawn : ∃ remaining, remaining + compiled.diagnostics.droppedEdges.length = u.edges.length ∧
    compiled.pathway.edges.length = remaining + if remaining = 0 then 1 else 0

theorem losesIntoConditionals_compile (s : Settings) (m : Metadata) (now : Int) {u : Document}
    (h : u.IsChecked) : LosesIntoConditionals u (compile s m now u.toChart) := by
  have hclean : List.Forall₂
      (fun e e' => e' = { e.toChart.tidy u.toChart.clean.nodeIds with id := e'.id })
      u.edges u.toChart.clean.edges := by
    have hchart := u.toChart.clean_edges
    rw [h.usableEdges, Document.toChart, List.forall₂_map_left_iff] at hchart
    exact hchart
  have hdropped : (compile s m now u.toChart).diagnostics.droppedEdges =
      ((u.edges.zip u.toChart.clean.edges).filter fun x => u.leadsToConditional x.1).map
        (·.2.id) := by
    have hzip : u.toChart.edges.zip u.toChart.clean.edges =
        (u.edges.zip u.toChart.clean.edges).map (Prod.map Edge.toChart id) := List.zip_map_left
    have hconditional : (fun x : Chart.Edge × Chart.Edge =>
        u.toChart.isConditionalNode x.1.target) ∘ Prod.map Edge.toChart id =
          fun x => u.leadsToConditional x.1 := funext fun x => h.isConditionalNode_target x.1
    rw [droppedEdges_of_usable h.usableEdges, hzip, List.filter_map, List.map_map, hconditional]
    rfl
  have hlength : u.toChart.edges.length = u.edges.length := List.length_map _
  refine ⟨?_, hclean, hdropped, u.toChart.drawnEdges.length,
    (length_drawnEdges_add h.usableEdges).trans hlength, length_compile_edges s m now _⟩
  have hnodes : (compile s m now u.toChart).diagnostics.droppedNodes =
      u.toChart.clean.droppedNodes := rfl
  rw [hnodes, Chart.clean_droppedNodes, h.usable_nodes.2, List.map_nil]

/-- Of a document that is compiled only the edges into conditionals are lost, once it was checked. -/
theorem compileDocument_loses {s : Settings} {m : Metadata} {now : Int} {d : Json.Value}
    {compiled : Compiled} (h : compileDocument s m now d = .ok compiled) :
    LosesIntoConditionals (validate d).toDocument compiled := by
  rw [compileDocument] at h
  split at h
  · rename_i hlist
    obtain rfl := Except.ok.inj h
    have hloses := losesIntoConditionals_compile s m now (isChecked_validate hlist)
    exact ⟨hloses.droppedNodes, hloses.cleaned, hloses.droppedEdges, hloses.drawn⟩
  · cases h

/-- A document with a repeated node, an edge without an identifier into a conditional, one out of it,
and one to nowhere. -/
def forked : Json.Value := .object [
  ("edges", .array [
    .object [("source", .string "a"), ("target", .string "w")],
    .object [("id", .string "2"), ("source", .string "w"), ("target", .string "b")],
    .object [("id", .string "3"), ("source", .string "a"), ("target", .string "c")]]),
  ("nodes", .array [
    .object [("id", .string "a"), ("type", .string "greeting")],
    .object [("data", .object [("condition", .string "if (Age < 18)")]), ("id", .string "w"),
      ("type", .string "condition")],
    .object [("id", .string "a")],
    .object [("id", .string "b"), ("type", .string "End Call")]])]

theorem compileDocument_loses_forked :
    ∃ compiled, compileDocument {} {} 0 forked = .ok compiled ∧
      compiled.diagnostics.droppedEdges = ["e_a_w"] ∧ compiled.pathway.edges.length = 1 ∧
      LosesIntoConditionals (validate forked).toDocument compiled :=
  ⟨_, rfl, by decide, by decide, compileDocument_loses (d := forked) rfl⟩

end Callflow
