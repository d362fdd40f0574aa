import Callflow.Proofs.Compile

/-!
Nothing of a chart is lost without a word: every node and every edge of it is either drawn, in its
place, or among those that the diagnostics list, and so is everything that is added.
-/

namespace Callflow

def Chart.EdgeClass.isDrawn : EdgeClass → Bool
  | .unusable => false
  | .intoConditional => false
  | .fromConditional => true
  | .plain => true

def Chart.cleanedEdges (c : Chart) : List (Chart.Edge × Chart.Edge) :=
  c.usableEdges.zip c.clean.edges

/-- Nodes of a type that are added: one, unless the chart has such a node. -/
def StandsIn (c : Chart) (type : Pathway.NodeType) (added : List Pathway.Node) : Prop :=
  if c.speakingNodes.any (Assembly.providerType ·.kind == type) then added = []
  else ∃ n, added = [n] ∧ n.type = type

/-- What becomes of the nodes of a chart, with those added at both ends. -/
structure NodesAccounted (s : Settings) (c : Chart) (r : Compiled)
    (front back : List Pathway.Node) : Prop where
  nodes : r.pathway.outputNodes =
    (front ++ (c.speakingNodes.map fun n => Assembly.node s (n.tidy c.clean.nodeIds)) ++ back).map
      (Compile.designateStart s c)
  ids : r.pathway.outputNodes.map (·.id) =
    front.map (·.id) ++ (c.speakingNodes.map fun n => c.idOf n.id) ++ back.map (·.id)
  ids_nodup : (c.usableNodes.map fun n => c.idOf n.id).Nodup
  front : StandsIn c .default front
  back : StandsIn c .endCall back
  dropped : r.diagnostics.droppedNodes = (Chart.unusable c.nodes).map (·.id)

/-- What becomes of the edges of a chart, with the one that may be added. -/
structure EdgesAccounted (c : Chart) (r : Compiled) (start : String)
    (added : Option Pathway.Edge) : Prop where
  drawn : ∃ drawn, r.pathway.edges = drawn ++ added.toList ∧
    drawn.map (fun o => (o.source, o.target)) = c.edges.filterMap (c.drawnEnds? start)
  added_isSome : added.isSome = true ↔ ∀ e ∈ c.edges, (c.edgeClass e).isDrawn = false
  added_ends : ∀ o ∈ added, ∃ a b,
    r.pathway.outputNodes.find? Assembly.isDefault = some a ∧
    r.pathway.outputNodes.find? Assembly.isEndCall = some b ∧ o.source = a.id ∧ o.target = b.id
  cleaned : List.Forall₂ (fun e e' => e' = { e.tidy c.clean.nodeIds with id := e'.id })
    c.usableEdges c.clean.edges
  dropped : r.diagnostics.droppedEdges =
    (c.edges.filter (c.edgeClass · = .unusable)).map (·.id) ++
      (c.cleanedEdges.filter fun x => c.edgeClass x.1 = .intoConditional).map (·.2.id)

namespace Compile

variable (s : Settings) (m : Metadata) (now : Int) (c : Chart)

theorem any_type_middle (type : Pathway.NodeType) :
    (middle s c).any (·.type == type) =
      c.speakingNodes.any (Assembly.providerType ·.kind == type) := by
  rw [middle, spoken_eq, List.any_map, List.any_map]
  rfl

theorem standsIn_front : StandsIn c .default (front s c) := by
  have hany : (middle s c).any Assembly.isDefault =
      c.speakingNodes.any (Assembly.providerType ·.kind == .default) := any_type_middle s c _
  rw [StandsIn, front, hany]
  split
  · rfl
  · exact ⟨_, rfl, rfl⟩

theorem standsIn_back : StandsIn c .endCall (back s c) := by
  have hany : (middle s c).any Assembly.isEndCall =
      c.speakingNodes.any (Assembly.providerType ·.kind == .endCall) := any_type_middle s c _
  rw [StandsIn, back, hany]
  split
  · rfl
  · exact ⟨_, rfl, rfl⟩

theorem nodesAccounted : NodesAccounted s c (compile s m now c) (front s c) (back s c) where
  nodes := by
    rw [compile_outputNodes, cast_nodes, staffed_nodes, middle, spoken_eq, List.map_map]
    rfl
  ids := by
    rw [compile_outputNodes, cast_ids, staffed_nodes, List.map_append, List.map_append, middle_ids]
  ids_nodup := by
    have hnodup := c.clean_node_ids_nodup
    rw [Chart.clean_nodes, List.map_map] at hnodup
    exact hnodup
  front := standsIn_front s c
  back := standsIn_back s c
  dropped := c.clean_droppedNodes

variable {c}

theorem drawnEnds?_isNone (start : String) (e : Chart.Edge) :
    (c.drawnEnds? start e).isNone = !(c.edgeClass e).isDrawn := by
  cases h : c.edgeClass e <;> simp [Chart.drawnEnds?, Chart.EdgeClass.isDrawn, h]

theorem edgeClass_eq_unusable {e : Chart.Edge} :
    c.edgeClass e = .unusable ↔ c.isUsableEdge e = false := by
  cases hu : c.isUsableEdge e with
  | false => simp [Chart.edgeClass, hu]
  | true =>
    simp only [Chart.edgeClass, hu, Bool.not_true, Bool.false_eq_true, if_false]
    split
    · simp
    · split <;> simp

theorem isDrawn_of_usable {e : Chart.Edge} (h : e ∈ c.usableEdges) :
    (c.edgeClass e).isDrawn = false ↔ c.edgeClass e = .intoConditional := by
  have hclass : c.edgeClass e ≠ .unusable := by
    rw [Ne, edgeClass_eq_unusable, (List.mem_filter.mp h).2]
    simp
  cases he : c.edgeClass e with
  | unusable => exact absurd he hclass
  | _ => simp [Chart.EdgeClass.isDrawn]

theorem filter_eq_of_forall₂ {α β : Type} {R : α → β → Prop} {p : α → Bool} {q : β → Bool}
    {as : List α} {bs : List β} (h : List.Forall₂ R as bs) (hpq : ∀ a b, R a b → q b = p a) :
    bs.filter q = ((as.zip bs).filter fun x => p x.1).map (·.2) := by
  induction h with
  | nil => rfl
  | @cons a b as bs hab _ ih =>
    rw [List.zip_cons_cons, List.filter_cons, List.filter_cons, hpq a b hab, ih]
    cases p a <;> simp

variable (c)

theorem routed_edges_eq_nil :
    (routed s c).edges = [] ↔ ∀ e ∈ c.edges, (c.edgeClass e).isDrawn = false := by
  rw [← List.map_eq_nil_iff (f := fun o : Pathway.Edge => (o.source, o.target)), routed_ends,
    List.filterMap_eq_nil_iff]
  refine forall₂_congr ?_
  intro e _
  rw [← Option.isNone_iff_eq_none, drawnEnds?_isNone, Bool.not_eq_true']

theorem routed_dropped :
    (routed s c).dropped =
      (c.cleanedEdges.filter fun x => c.edgeClass x.1 = .intoConditional).map (·.2.id) := by
  have hclean := (List.forall₂_and_left _ _).mpr ⟨fun _ he => he, c.clean_edges⟩
  have hfilter : c.clean.edges.filter (fun e => (Routing.ends? (context s c) e).isNone) =
      (c.cleanedEdges.filter fun x => c.edgeClass x.1 = .intoConditional).map (·.2) := by
    refine filter_eq_of_forall₂ (p := fun e => c.edgeClass e = .intoConditional) hclean ?_
    rintro e e' ⟨he, hclean'⟩
    rw [hclean', ends?_tidy s he, drawnEnds?_isNone, Bool.eq_iff_iff, Bool.not_eq_true',
      isDrawn_of_usable he, decide_eq_true_iff]
  rw [routed, Routing.route_dropped, hfilter, List.map_map]
  rfl

theorem connection?_isSome :
    (connection? s c).isSome = true ↔ ∀ e ∈ c.edges, (c.edgeClass e).isDrawn = false := by
  obtain ⟨a, b, _, _, heq⟩ := exists_connection?_eq s c
  rw [heq, ← routed_edges_eq_nil s]
  by_cases hr : (routed s c).edges = [] <;> simp [hr]

theorem edgesAccounted :
    EdgesAccounted c (compile s m now c) (startId c) (connection? s c) where
  drawn := ⟨(routed s c).edges, compile_edges s m now c, routed_ends s c⟩
  added_isSome := connection?_isSome s c
  added_ends := by
    intro o ho
    obtain ⟨a, b, ha, hb, heq⟩ := exists_connection?_eq s c
    rw [compile_outputNodes]
    refine ⟨a, b, ha, hb, ?_⟩
    rw [Option.mem_def, heq] at ho
    by_cases hr : (routed s c).edges = []
    · rw [if_pos hr, Option.some.injEq] at ho
      subst ho
      exact ⟨rfl, rfl⟩
    · simp [hr] at ho
  cleaned := c.clean_edges
  dropped := by
    rw [compile_droppedEdges, Chart.clean_droppedEdges, routed_dropped]
    congr 2
    refine List.filter_congr ?_
    intro e _
    rw [Bool.eq_iff_iff, Bool.not_eq_true', decide_eq_true_iff, edgeClass_eq_unusable]

end Compile

open Compile

/-- Every node and every edge of a chart is accounted for, and all that is added is listed. -/
theorem compile_accounts (s : Settings) (m : Metadata) (now : Int) (c : Chart) :
    ∃ start front back added,
      (compile s m now c).pathway.outputNodes.filter (·.isStart) = [start] ∧
      NodesAccounted s c (compile s m now c) front back ∧
      EdgesAccounted c (compile s m now c) start.id added ∧
      (compile s m now c).diagnostics.synthesized =
        (front ++ back).map (·.id) ++ added.toList.map (·.id) := by
  obtain ⟨start, hfilter, hid⟩ := filter_isStart_cast s c
  rw [compile_outputNodes]
  refine ⟨start, front s c, back s c, connection? s c, hfilter, nodesAccounted s m now c, ?_,
    compile_synthesized s m now c⟩
  rw [hid]
  exact edgesAccounted s m now c

end Callflow
