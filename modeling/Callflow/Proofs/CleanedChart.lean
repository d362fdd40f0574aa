import Callflow.Chart.Cleaned
import Callflow.Proofs.ChartGraph
import Callflow.Proofs.IdTable
import Mathlib.Data.List.Forall2

/-!
What cleaning a chart gives: its nodes and edges of use, in their order, under identifiers of the
two tables, and the others among those left out.
-/

namespace Callflow.Chart

open Identifier

def Node.tidy (nodeIds : IdTable) (n : Node) : Node :=
  { n with id := (nodeIds.get? n.id).getD "" }

def Edge.tidy (nodeIds : IdTable) (e : Edge) : Edge :=
  { e with
    source := (nodeIds.get? e.source).getD ""
    target := (nodeIds.get? e.target).getD ""
    sourceHandle := cleanHandle nodeIds e.sourceHandle
    targetHandle := cleanHandle nodeIds e.targetHandle }

namespace Cleaned

/-- What holds after the nodes `ns`. -/
structure AfterNodes (ns : List Node) (g : Cleaned) : Prop where
  nodes : g.nodes = (usable ns).map (Node.tidy g.nodeIds)
  dropped : g.droppedNodes = (unusable ns).map (·.id)
  sound : g.nodeIds.Sound
  keys : ∀ key, g.nodeIds.contains key = true ↔ key ∈ (usable ns).map (·.id)
  proper : ∀ id ∈ g.nodeIds.taken, Proper id
  edges : g.edges = [] ∧ g.edgeIds = {} ∧ g.droppedEdges = []

theorem afterNodes_nil : AfterNodes [] {} where
  nodes := rfl
  dropped := rfl
  sound := IdTable.sound_empty
  keys key := by simp [IdTable.contains, IdTable.get?, usable, withEarlier]
  proper := by simp
  edges := ⟨rfl, rfl, rfl⟩

theorem addNode_of_unusable {g : Cleaned} {n : Node} (h : n.id = "" ∨ g.nodeIds.contains n.id) :
    g.addNode n = { g with droppedNodes := g.droppedNodes ++ [n.id] } := by
  simp only [addNode, h, if_true]

theorem addNode_of_usable {g : Cleaned} {n : Node} (h : ¬ (n.id = "" ∨ g.nodeIds.contains n.id)) :
    g.addNode n = { g with
      nodes := g.nodes ++ [{ n with id := (g.nodeIds.insert n.id).1 }]
      nodeIds := (g.nodeIds.insert n.id).2 } := by
  simp only [addNode, h, if_false]

theorem AfterNodes.isUsable_iff {ns : List Node} {g : Cleaned} (h : AfterNodes ns g) (n : Node) :
    n.isUsable ns = true ↔ ¬ (n.id = "" ∨ g.nodeIds.contains n.id = true) := by
  rw [Chart.isUsable_iff, h.keys, mem_usable_ids]
  simp only [List.mem_map, not_or, not_and, not_exists]
  constructor
  · rintro ⟨hne, hall⟩
    exact ⟨hne, fun _ m hm => hall m hm⟩
  · rintro ⟨hne, hall⟩
    exact ⟨hne, hall hne⟩

theorem AfterNodes.addNode {ns : List Node} {g : Cleaned} (h : AfterNodes ns g) (n : Node) :
    AfterNodes (ns ++ [n]) (g.addNode n) := by
  by_cases hu : n.isUsable ns = true
  · have hfree := (h.isUsable_iff n).mp hu
    have hnone : g.nodeIds.get? n.id = none := by
      simpa [IdTable.contains] using (not_or.mp hfree).2
    rw [addNode_of_usable hfree]
    refine ⟨?_, ?_, h.sound.insert n.id, ?_, ?_, h.edges⟩
    · rw [usable_append_singleton, if_pos hu, List.map_append, h.nodes]
      simp only [List.map_cons, List.map_nil, Node.tidy, IdTable.get?_insert_self,
        Option.getD_some]
      congr 1
      refine List.map_congr_left ?_
      intro m hm
      have hne : m.id ≠ n.id := by
        obtain ⟨_, hall⟩ := Chart.isUsable_iff.mp hu
        obtain ⟨p, hp, he⟩ := List.mem_map.mp
          (mem_usable_ids.mp (List.mem_map_of_mem (f := (·.id)) hm)).2
        exact he ▸ hall p hp
      rw [Node.tidy, Node.tidy, IdTable.get?_insert_of_ne hne]
    · rw [unusable_append_singleton, if_pos hu, List.append_nil, h.dropped]
    · intro key
      rw [usable_append_singleton, if_pos hu, List.map_append, List.mem_append, ← h.keys]
      by_cases hk : key = n.id
      · subst hk
        simp [IdTable.contains, IdTable.get?_insert_self]
      · simp [IdTable.contains, IdTable.get?_insert_of_ne hk, hk]
    · intro id hid
      rw [IdTable.insert_of_none hnone] at hid
      rcases List.mem_cons.mp hid with rfl | hid
      · exact IdTable.proper_reserve _ (not_or.mp hfree).1
      · exact h.proper id hid
  · have hdrop : n.id = "" ∨ g.nodeIds.contains n.id = true := by
      by_contra hfree
      exact hu ((h.isUsable_iff n).mpr hfree)
    rw [addNode_of_unusable hdrop]
    have hsame : usable (ns ++ [n]) = usable ns := by
      rw [usable_append_singleton, if_neg hu, List.append_nil]
    refine ⟨?_, ?_, h.sound, ?_, h.proper, h.edges⟩
    · rw [hsame]
      exact h.nodes
    · rw [unusable_append_singleton, if_neg hu, List.map_append, h.dropped]
      rfl
    · rw [hsame]
      exact h.keys

theorem afterNodes (ns : List Node) : AfterNodes ns (ns.foldl Cleaned.addNode {}) := by
  induction ns using List.reverseRecOn with
  | nil => exact afterNodes_nil
  | append_singleton ns n ih =>
    rw [List.foldl_append]
    exact ih.addNode n

theorem resolve?_of_usable {ids : IdTable} {e : Edge} (hid : e.id ≠ "")
    (hs : ids.contains e.source = true) (ht : ids.contains e.target = true) :
    resolve? ids e = some (e.tidy ids) := by
  obtain ⟨source, hsource⟩ := Option.isSome_iff_exists.mp hs
  obtain ⟨target, htarget⟩ := Option.isSome_iff_exists.mp ht
  simp [resolve?, Edge.tidy, hid, hsource, htarget]

theorem resolve?_of_unusable {ids : IdTable} {e : Edge}
    (h : ¬ (e.id ≠ "" ∧ ids.contains e.source = true ∧ ids.contains e.target = true)) :
    resolve? ids e = none := by
  by_cases hid : e.id = ""
  · simp [resolve?, hid]
  · cases hs : ids.get? e.source with
    | none => simp [resolve?, hs]
    | some source =>
      cases ht : ids.get? e.target with
      | none => simp [resolve?, hs, ht]
      | some target =>
        exact absurd ⟨hid, by simp [IdTable.contains, hs], by simp [IdTable.contains, ht]⟩ h

/-- What holds after the edges `es` of a chart whose nodes gave `g₀`. -/
structure AfterEdges (c : Chart) (g₀ : Cleaned) (es : List Edge) (g : Cleaned) : Prop where
  kept : g.nodes = g₀.nodes ∧ g.nodeIds = g₀.nodeIds ∧ g.droppedNodes = g₀.droppedNodes
  edges : List.Forall₂ (fun e e' => e' = { e.tidy g.nodeIds with id := e'.id })
    (es.filter c.isUsableEdge) g.edges
  dropped : g.droppedEdges = (es.filter (!c.isUsableEdge ·)).map (·.id)
  sound : g.edgeIds.Sound
  taken : g.edgeIds.taken = (g.edges.map (·.id)).reverse
  proper : ∀ id ∈ g.edgeIds.taken, Proper id

variable {c : Chart} {g₀ g : Cleaned} {es : List Edge}

theorem AfterNodes.isUsableEdge_iff (h : AfterNodes c.nodes g₀) (e : Edge) :
    c.isUsableEdge e = true ↔ e.id ≠ "" ∧ g₀.nodeIds.contains e.source = true ∧
      g₀.nodeIds.contains e.target = true := by
  rw [h.keys, h.keys, Chart.isUsableEdge_iff, isNode_iff, isNode_iff]
  rfl

theorem afterEdges_nil (h : AfterNodes c.nodes g₀) : AfterEdges c g₀ [] g₀ := by
  obtain ⟨hedges, hids, hdropped⟩ := h.edges
  refine ⟨⟨rfl, rfl, rfl⟩, ?_, ?_, ?_, ?_, ?_⟩
  · rw [hedges]
    exact .nil
  · rw [hdropped]
    rfl
  · rw [hids]
    exact IdTable.sound_empty
  · rw [hids, hedges]
    rfl
  · rw [hids]
    simp

theorem AfterEdges.addEdge (h₀ : AfterNodes c.nodes g₀) (h : AfterEdges c g₀ es g) (e : Edge) :
    AfterEdges c g₀ (es ++ [e]) (g.addEdge e) := by
  have hids : g.nodeIds = g₀.nodeIds := h.kept.2.1
  by_cases hu : c.isUsableEdge e = true
  · obtain ⟨hid, hs, ht⟩ := (h₀.isUsableEdge_iff e).mp hu
    rw [← hids] at hs ht
    have hadd : g.addEdge e = { g with
        edges := g.edges ++ [{ e.tidy g.nodeIds with id := (g.edgeIds.reserve e.id).1 }]
        edgeIds := (g.edgeIds.reserve e.id).2 } := by
      simp only [Cleaned.addEdge, resolve?_of_usable hid hs ht]
    rw [hadd]
    refine ⟨h.kept, ?_, ?_, h.sound.reserve e.id, ?_, ?_⟩
    · rw [List.filter_append]
      refine List.rel_append h.edges ?_
      simp [hu]
    · simp [List.filter_append, hu, h.dropped]
    · simp [h.taken]
    · intro id hmem
      rcases List.mem_cons.mp hmem with rfl | hmem
      · exact IdTable.proper_reserve _ hid
      · exact h.proper id hmem
  · have hnot : ¬ (e.id ≠ "" ∧ g.nodeIds.contains e.source = true ∧
        g.nodeIds.contains e.target = true) := by
      rw [hids, ← h₀.isUsableEdge_iff e]
      exact hu
    have hadd : g.addEdge e = { g with droppedEdges := g.droppedEdges ++ [e.id] } := by
      simp only [Cleaned.addEdge, resolve?_of_unusable hnot]
    rw [hadd]
    refine ⟨h.kept, ?_, ?_, h.sound, h.taken, h.proper⟩
    · simpa [List.filter_append, hu] using h.edges
    · simp [List.filter_append, hu, h.dropped]

theorem afterEdges (h₀ : AfterNodes c.nodes g₀) (es : List Edge) :
    AfterEdges c g₀ es (es.foldl Cleaned.addEdge g₀) := by
  induction es using List.reverseRecOn with
  | nil => exact afterEdges_nil h₀
  | append_singleton es e ih =>
    rw [List.foldl_append]
    exact ih.addEdge h₀ e

end Cleaned

open Cleaned

variable (c : Chart)

/-- The identifier that a node of use has in the pathway. -/
def idOf (key : String) : String := (c.clean.nodeIds.get? key).getD ""

theorem afterEdges_clean :
    AfterEdges c (c.nodes.foldl Cleaned.addNode {}) c.edges c.clean :=
  afterEdges (afterNodes c.nodes) c.edges

theorem clean_nodeIds : c.clean.nodeIds = (c.nodes.foldl Cleaned.addNode {}).nodeIds :=
  (afterEdges_clean c).kept.2.1

theorem clean_nodes : c.clean.nodes = c.usableNodes.map (Node.tidy c.clean.nodeIds) := by
  rw [(afterEdges_clean c).kept.1, (afterNodes c.nodes).nodes, clean_nodeIds]
  rfl

theorem clean_droppedNodes : c.clean.droppedNodes = (unusable c.nodes).map (·.id) := by
  rw [(afterEdges_clean c).kept.2.2, (afterNodes c.nodes).dropped]

theorem clean_edges :
    List.Forall₂ (fun e e' => e' = { e.tidy c.clean.nodeIds with id := e'.id })
      c.usableEdges c.clean.edges :=
  (afterEdges_clean c).edges

theorem clean_droppedEdges :
    c.clean.droppedEdges = (c.edges.filter (!c.isUsableEdge ·)).map (·.id) :=
  (afterEdges_clean c).dropped

theorem nodeIds_sound : c.clean.nodeIds.Sound := by
  rw [clean_nodeIds]
  exact (afterNodes c.nodes).sound

theorem proper_of_mem_nodeIds {id : String} (h : id ∈ c.clean.nodeIds.taken) : Proper id := by
  rw [clean_nodeIds] at h
  exact (afterNodes c.nodes).proper id h

theorem contains_nodeIds (key : String) : c.clean.nodeIds.contains key = c.isNode key := by
  rw [Bool.eq_iff_iff, clean_nodeIds, (afterNodes c.nodes).keys, isNode_iff]
  rfl

variable {c} {key other : String}

theorem get?_nodeIds (h : c.isNode key = true) :
    c.clean.nodeIds.get? key = some (c.idOf key) := by
  rw [← contains_nodeIds] at h
  obtain ⟨id, hid⟩ := Option.isSome_iff_exists.mp h
  simp [idOf, hid]

theorem tidy_mem_clean_nodes {n : Node} (h : n ∈ c.usableNodes) :
    n.tidy c.clean.nodeIds ∈ c.clean.nodes := by
  rw [clean_nodes]
  exact List.mem_map_of_mem h

theorem isNode_id {n : Node} (h : n ∈ c.usableNodes) : c.isNode n.id = true :=
  isNode_iff.mpr (List.mem_map_of_mem (f := (·.id)) h)

theorem idOf_mem_taken (h : c.isNode key = true) : c.idOf key ∈ c.clean.nodeIds.taken :=
  (nodeIds_sound c).get?_mem_taken (get?_nodeIds h)

theorem idOf_inj (hk : c.isNode key = true) (ho : c.isNode other = true)
    (h : c.idOf key = c.idOf other) : key = other := by
  have hget := get?_nodeIds hk
  rw [h] at hget
  exact (nodeIds_sound c).get?_inj hget (get?_nodeIds ho)

variable (c) in
theorem clean_node_ids_nodup : (c.clean.nodes.map (·.id)).Nodup := by
  rw [clean_nodes, List.map_map]
  refine List.Nodup.map_on ?_ (List.Nodup.of_map _ (usable_ids_nodup c.nodes))
  intro m hm n hn h
  exact eq_of_id_eq hm hn (idOf_inj (isNode_id hm) (isNode_id hn) h)

variable (c) in
theorem edgeIds_sound : c.clean.edgeIds.Sound := (afterEdges_clean c).sound

variable (c) in
theorem clean_edge_ids_nodup : (c.clean.edges.map (·.id)).Nodup := by
  have h := (edgeIds_sound c).taken_nodup
  rw [(afterEdges_clean c).taken] at h
  exact List.nodup_reverse.mp h

theorem mem_edgeIds_taken {id : String} :
    id ∈ c.clean.edgeIds.taken ↔ id ∈ c.clean.edges.map (·.id) := by
  rw [(afterEdges_clean c).taken, List.mem_reverse]

theorem proper_of_mem_edgeIds {id : String} (h : id ∈ c.clean.edgeIds.taken) : Proper id :=
  (afterEdges_clean c).proper id h

theorem proper_of_mem_clean_edges {e : Edge} (h : e ∈ c.clean.edges) : Proper e.id :=
  proper_of_mem_edgeIds (mem_edgeIds_taken.mpr (List.mem_map_of_mem h))

theorem proper_of_mem_cleanHandle {handle : Option String} {h : String}
    (hh : h ∈ cleanHandle c.clean.nodeIds handle) : Proper h := by
  obtain ⟨raw, hraw, rfl⟩ := Option.map_eq_some_iff.mp hh
  have hne : raw ≠ "" := by simpa using (Option.mem_filter_iff.mp hraw).2
  cases hget : c.clean.nodeIds.get? raw with
  | none => simpa using proper_clean hne
  | some id => exact proper_of_mem_nodeIds c ((nodeIds_sound c).get?_mem_taken hget)

theorem exists_of_mem_clean_edges {e' : Edge} (h : e' ∈ c.clean.edges) :
    ∃ e ∈ c.usableEdges, e' = { e.tidy c.clean.nodeIds with id := e'.id } := by
  obtain ⟨i, hi, rfl⟩ := List.getElem_of_mem h
  obtain ⟨hlen, hrel⟩ := List.forall₂_iff_get.mp (clean_edges c)
  exact ⟨c.usableEdges[i], List.getElem_mem _, hrel i (hlen ▸ hi) hi⟩

end Callflow.Chart
