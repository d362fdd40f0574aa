import Callflow.Proofs.Compile

/-!
Every pathway that is compiled holds together: its identifiers are proper and different, and its
edges join nodes of it.
-/

namespace Callflow

open Identifier

/-- An edge joins two of the nodes, and all that it has for an identifier is proper. -/
structure Pathway.Edge.Joins (nodes : List Pathway.Node) (e : Pathway.Edge) : Prop where
  id_proper : Proper e.id
  source_mem : ∃ n ∈ nodes, n.id = e.source
  target_mem : ∃ n ∈ nodes, n.id = e.target
  sourceHandle_proper : ∀ h ∈ e.sourceHandle, Proper h
  targetHandle_proper : ∀ h ∈ e.targetHandle, Proper h

structure Pathway.Integrity (p : Pathway) : Prop where
  node_ids_nodup : (p.outputNodes.map (·.id)).Nodup
  node_ids_proper : ∀ n ∈ p.outputNodes, Proper n.id
  edge_ids_nodup : (p.edges.map (·.id)).Nodup
  edges_join : ∀ e ∈ p.edges, e.Joins p.outputNodes

namespace Compile

variable (s : Settings) (c : Chart)

theorem exists_of_mem_cast {n : Pathway.Node} (h : n ∈ (cast s c).nodes) :
    ∃ p ∈ (staffed s c).nodes, p.id = n.id := by
  have hid : n.id ∈ (cast s c).nodes.map (·.id) := List.mem_map_of_mem h
  rw [cast_ids] at hid
  exact List.mem_map.mp hid

theorem startId_mem_cast_ids : startId c ∈ (cast s c).nodes.map (·.id) := by
  obtain ⟨n, hn, hid⟩ := exists_start s c
  rw [cast_ids, ← hid]
  exact List.mem_map_of_mem hn

theorem routed_named : Routing.Named c.clean.edgeIds c.clean.edges (routed s c) := by
  refine Routing.route_named c.clean_edge_ids_nodup ?_ fun _ => Chart.proper_of_mem_edgeIds
  intro e he
  exact Chart.mem_edgeIds_taken.mpr (List.mem_map_of_mem he)

variable {s c} {o : Pathway.Edge}

theorem joins_of_mem_routed (h : o ∈ (routed s c).edges) : o.Joins (cast s c).nodes := by
  have hnamed := routed_named s c
  obtain ⟨e', he', htarget, hot, hoh, hsource⟩ := Routing.exists_of_mem_route h
  obtain ⟨e, _, hclean⟩ := Chart.exists_of_mem_clean_edges he'
  refine ⟨hnamed.proper _ (hnamed.taken o h), ?_, List.mem_map.mp (hot ▸ htarget), ?_, ?_⟩
  · rcases hsource with ⟨hid, _⟩ | ⟨hmem, hid, _⟩
    · have hstart : (context s c).startId = some (startId c) := cast_start s c
      rw [hstart, Option.some.injEq] at hid
      exact List.mem_map.mp (hid ▸ startId_mem_cast_ids s c)
    · exact List.mem_map.mp (hid ▸ hmem)
  · intro handle hh
    rcases hsource with ⟨_, hnone⟩ | ⟨_, _, hkept⟩
    · simp [hnone] at hh
    · rw [hkept, hclean] at hh
      exact Chart.proper_of_mem_cleanHandle hh
  · intro handle hh
    rw [hoh, hclean] at hh
    exact Chart.proper_of_mem_cleanHandle hh

theorem joins_of_connection? (h : connection? s c = some o) :
    (routed s c).edges = [] ∧ o.Joins (cast s c).nodes := by
  obtain ⟨a, b, ha, hb, he⟩ := exists_connection?_eq s c
  rw [h] at he
  by_cases hr : (routed s c).edges = []
  · rw [if_pos hr, Option.some.injEq] at he
    subst he
    exact ⟨hr, IdTable.proper_reserve _ (IdTable.joined_ne_empty _ _),
      ⟨a, List.mem_of_find?_eq_some ha, rfl⟩, ⟨b, List.mem_of_find?_eq_some hb, rfl⟩, nofun, nofun⟩
  · simp [hr] at he

end Compile

open Compile

/-- Whatever the chart, its pathway holds together. -/
theorem compile_integrity (s : Settings) (m : Metadata) (now : Int) (c : Chart) :
    (compile s m now c).pathway.Integrity := by
  have hnodes := compile_outputNodes s m now c
  have hedges := compile_edges s m now c
  refine ⟨?_, ?_, ?_, ?_⟩
  · rw [hnodes]
    exact cast_ids_nodup s c
  · intro n hn
    rw [hnodes] at hn
    obtain ⟨p, hp, hid⟩ := exists_of_mem_cast s c hn
    exact hid ▸ proper_of_mem_staffed hp
  · rw [hedges, List.map_append]
    cases hc : connection? s c with
    | none => simpa using (routed_named s c).nodup
    | some o => simp [(joins_of_connection? hc).1]
  · intro e he
    rw [hedges, List.mem_append, Option.mem_toList] at he
    rw [hnodes]
    rcases he with he | he
    · exact joins_of_mem_routed he
    · exact (joins_of_connection? he).2

end Callflow
