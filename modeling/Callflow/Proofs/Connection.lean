import Callflow.Proofs.Drawing
import Callflow.Proofs.SingleStart

/-!
Whether an edge leads from a plain node of a pathway to a closing. There is one if the chart draws no
edge at all, since then one is added, and otherwise only if the chart itself draws one.
-/

namespace Callflow

namespace Pathway

def Edge.LeadsToClosing (nodes : List Node) (o : Edge) : Prop :=
  (∃ a ∈ nodes, a.id = o.source ∧ a.type = .default) ∧
    ∃ b ∈ nodes, b.id = o.target ∧ b.type = .endCall

instance (nodes : List Node) (o : Edge) : Decidable (o.LeadsToClosing nodes) :=
  inferInstanceAs (Decidable (_ ∧ _))

def IsConnected (p : Pathway) : Prop := ∃ o ∈ p.edges, o.LeadsToClosing p.outputNodes

instance (p : Pathway) : Decidable p.IsConnected :=
  inferInstanceAs (Decidable (∃ o ∈ p.edges, _))

end Pathway

namespace Chart

variable (c : Chart)

/-- What is drawn for an edge leaves this node: the node to start with, if the edge leaves a
conditional, and else the node it leaves itself. -/
def LeavesFrom (e : Edge) (a : Node) : Prop :=
  if c.isConditionalNode e.source then c.startNode? = some a else a.id = e.source

/-- What is drawn for an edge leads from a plain node to a closing. -/
def Connects (e : Edge) : Prop :=
  (∃ a ∈ c.speakingNodes, c.LeavesFrom e a ∧ Assembly.providerType a.kind = .default) ∧
    ∃ b ∈ c.speakingNodes, b.id = e.target ∧ Assembly.providerType b.kind = .endCall

end Chart

namespace Compile

variable {s : Settings} {c : Chart} {a b : Chart.Node} {e : Chart.Edge} {o : Pathway.Edge}
  {type : Pathway.NodeType}

theorem exists_type_iff (ha : a ∈ c.speakingNodes) :
    (∃ n ∈ (cast s c).nodes, n.id = c.idOf a.id ∧ n.type = type) ↔
      Assembly.providerType a.kind = type := by
  have himage : Assembly.node s (a.tidy c.clean.nodeIds) ∈ (staffed s c).nodes := by
    apply mem_staffed.mpr
    rw [middle, spoken_eq]
    exact .inr (.inl (List.mem_map_of_mem (List.mem_map_of_mem ha)))
  rw [cast_nodes]
  constructor
  · rintro ⟨n, hn, hid, rfl⟩
    obtain ⟨k, hk, rfl⟩ := List.mem_map.mp hn
    rw [designateStart_id] at hid
    rw [designateStart_type, eq_of_mem_staffed hk himage hid]
    rfl
  · intro htype
    refine ⟨designateStart s c _, List.mem_map_of_mem himage, ?_, ?_⟩
    · rw [designateStart_id]
      rfl
    · rw [designateStart_type]
      exact htype

theorem exists_speaking_target (he : e ∈ c.drawnEdges) :
    ∃ b ∈ c.speakingNodes, b.id = e.target := by
  obtain ⟨hu, hcond⟩ := Chart.mem_drawnEdges.mp he
  obtain ⟨b, hb, hid⟩ := Chart.exists_target hu
  rw [← hid, Chart.isConditionalNode_id hb] at hcond
  exact ⟨b, mem_speakingNodes.mpr ⟨hb, hcond⟩, hid⟩

theorem exists_leavesFrom (he : e ∈ c.drawnEdges) :
    ∃ a ∈ c.speakingNodes, drawnSource c e.source = c.idOf a.id ∧
      ∀ a', a' ∈ c.speakingNodes → (c.LeavesFrom e a' ↔ a' = a) := by
  obtain ⟨n, hn, hsource⟩ := Chart.exists_source (Chart.mem_drawnEdges.mp he).1
  have hcond : c.isConditionalNode e.source = n.isConditional := isConditionalNode_source hn hsource
  cases hc : n.isConditional with
  | true =>
    obtain ⟨a, ha⟩ : ∃ a, c.startNode? = some a := by
      cases hstart : c.startNode? with
      | some a => exact ⟨a, rfl⟩
      | none =>
        obtain ⟨b, hb, _⟩ := exists_speaking_target he
        rw [speakingNodes_of_startNode? hstart] at hb
        cases hb
    refine ⟨a, mem_of_startNode? ha, ?_, ?_⟩
    · rw [drawnSource, hcond, hc, if_pos rfl, startId, ha]
      rfl
    · intro a' _
      rw [Chart.LeavesFrom, hcond, hc, if_pos rfl, ha, Option.some.injEq, eq_comm]
  | false =>
    refine ⟨n, mem_speakingNodes.mpr ⟨hn, hc⟩, ?_, ?_⟩
    · rw [drawnSource, hcond, hc, hsource]
      rfl
    · intro a' ha'
      rw [Chart.LeavesFrom, hcond, hc, if_neg (by simp)]
      constructor
      · intro hid
        exact eq_of_source hn hsource a' (mem_speakingNodes.mp ha').1 hid
      · rintro rfl
        exact hsource

theorem leadsToClosing_iff (he : e ∈ c.drawnEdges) (h : IsDrawing c e o) :
    o.LeadsToClosing (cast s c).nodes ↔ c.Connects e := by
  obtain ⟨a, ha, hsource, hleaves⟩ := exists_leavesFrom he
  obtain ⟨b, hb, htarget⟩ := exists_speaking_target he
  rw [Pathway.Edge.LeadsToClosing, h.source, h.target, hsource, ← htarget, exists_type_iff ha, exists_type_iff hb]
  constructor
  · rintro ⟨hdefault, hend⟩
    exact ⟨⟨a, ha, (hleaves a ha).mpr rfl, hdefault⟩, b, hb, htarget, hend⟩
  · rintro ⟨⟨a', ha', hfrom, hdefault⟩, b', hb', hid, hend⟩
    obtain rfl := (hleaves a' ha').mp hfrom
    have hsame : b' = b := Chart.eq_of_id_eq (mem_speakingNodes.mp hb').1
      (mem_speakingNodes.mp hb).1 (hid.trans htarget.symm)
    exact ⟨hdefault, hsame ▸ hend⟩

variable (s c)

theorem exists_mem_routed_iff :
    (∃ o ∈ (routed s c).edges, o.LeadsToClosing (cast s c).nodes) ↔
      ∃ e ∈ c.drawnEdges, c.Connects e := by
  constructor
  · rintro ⟨o, ho, hleads⟩
    obtain ⟨e, he, h⟩ := exists_drawn_of_mem_routed ho
    exact ⟨e, he, (leadsToClosing_iff he h).mp hleads⟩
  · rintro ⟨e, he, hconnects⟩
    obtain ⟨o, ho, h⟩ := exists_routed_of_mem_drawn he
    exact ⟨o, ho, (leadsToClosing_iff he h).mpr hconnects⟩

theorem routed_edges_eq_nil_iff : (routed s c).edges = [] ↔ c.drawnEdges = [] := by
  rw [← List.length_eq_zero_iff, ← (routed_drawing s c).length_eq, List.length_eq_zero_iff]

theorem exists_mem_connection? (h : c.drawnEdges = []) :
    ∃ o ∈ connection? s c, o.LeadsToClosing (cast s c).nodes := by
  obtain ⟨a, b, ha, hb, hconnection⟩ := exists_connection?_eq s c
  rw [if_pos ((routed_edges_eq_nil_iff s c).mpr h)] at hconnection
  obtain ⟨ha, hdefault⟩ := of_find?_isDefault ha
  obtain ⟨hb, hend⟩ := of_find?_isEndCall hb
  exact ⟨_, hconnection, ⟨a, ha, rfl, hdefault⟩, b, hb, rfl, hend⟩

end Compile

open Compile

/-- A pathway has a plain node and a closing. An edge leads from one to the other if none is drawn
for the chart, and else if and only if one that is drawn does. -/
theorem compile_isConnected_iff (s : Settings) (m : Metadata) (now : Int) (c : Chart) :
    (∃ a ∈ (compile s m now c).pathway.outputNodes, a.type = .default) ∧
    (∃ b ∈ (compile s m now c).pathway.outputNodes, b.type = .endCall) ∧
    ((compile s m now c).pathway.IsConnected ↔
      c.drawnEdges = [] ∨ ∃ e ∈ c.drawnEdges, c.Connects e) := by
  rw [Pathway.IsConnected, compile_outputNodes, compile_edges]
  refine ⟨exists_mem_default s c, exists_mem_endCall s c, ?_⟩
  by_cases hnil : c.drawnEdges = []
  · obtain ⟨o, ho, hleads⟩ := exists_mem_connection? s c hnil
    have hmem : o ∈ (routed s c).edges ++ (connection? s c).toList :=
      List.mem_append_right _ (Option.mem_toList.mpr ho)
    exact iff_of_true ⟨o, hmem, hleads⟩ (.inl hnil)
  · obtain ⟨_, _, _, _, hconnection⟩ := exists_connection?_eq s c
    rw [if_neg ((routed_edges_eq_nil_iff s c).not.mpr hnil)] at hconnection
    rw [hconnection, Option.toList_none, List.append_nil, exists_mem_routed_iff]
    exact (or_iff_right hnil).symm

/-- The closing that this chart is given stays apart, since the chart draws an edge already. -/
theorem exists_not_isConnected : ∃ c : Chart, ¬ (compile {} {} 0 c).pathway.IsConnected :=
  ⟨{ nodes := [⟨"g", .greeting "Hello", none, none, false, []⟩,
       ⟨"q", .question "How are you?", none, none, false, []⟩]
     edges := [⟨"e", "g", "q", none, none, none, none⟩] }, by decide⟩

end Callflow
