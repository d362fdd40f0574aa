import Callflow.Proofs.Handle
import Callflow.Proofs.UsablePart

/-!
Cleaning a chart once more. In a clean chart every identifier is free when its turn comes, so it goes
by itself, and what is taken in the end is the same. So a chart compiles as its clean form does.
-/

namespace Callflow

open Identifier

namespace IdTable

variable {t u : IdTable} {key text : String} {ids : List String}

def ofIds (ids : List String) : IdTable where
  entries := ids.reverse.map fun id => (id, id)
  taken := ids.reverse

theorem mem_entries_ofIds {e : String × String} :
    e ∈ (ofIds ids).entries ↔ e.1 ∈ ids ∧ e.2 = e.1 := by
  rw [ofIds, List.mem_map]
  constructor
  · rintro ⟨id, hid, rfl⟩
    exact ⟨List.mem_reverse.mp hid, rfl⟩
  · rintro ⟨hid, heq⟩
    exact ⟨e.1, List.mem_reverse.mpr hid, Prod.ext rfl heq.symm⟩

theorem get?_ofIds (h : key ∈ ids) : (ofIds ids).get? key = some key := by
  cases hget : (ofIds ids).get? key with
  | some id => exact congrArg some (mem_entries_ofIds.mp (mem_entries_of_get? hget)).2
  | none =>
    have hne := List.lookup_eq_none_iff.mp hget (key, key) (mem_entries_ofIds.mpr ⟨h, rfl⟩)
    simp at hne

theorem get?_ofIds_of_not_mem (h : key ∉ ids) : (ofIds ids).get? key = none := by
  cases hget : (ofIds ids).get? key with
  | none => rfl
  | some id => exact absurd (mem_entries_ofIds.mp (mem_entries_of_get? hget)).1 h

theorem reserve_of_free (hclean : isClean text = true) (hfree : text ∉ t.taken) :
    t.reserve text = (text, { t with taken := text :: t.taken }) := by
  have hid : (t.reserve text).1 = text := by
    by_contra hne
    rw [← clean_of_isClean hclean] at hfree
    exact hfree (clean_mem_taken_of_reserve_ne ((clean_of_isClean hclean).symm ▸ hne))
  have htable : (t.reserve text).2 = { t with taken := (t.reserve text).1 :: t.taken } := rfl
  rw [hid] at htable
  exact Prod.ext hid htable

theorem insert_ofIds (hclean : isClean key = true) (hfree : key ∉ ids) :
    (ofIds ids).insert key = (key, ofIds (ids ++ [key])) := by
  have htaken : key ∉ (ofIds ids).taken := fun hmem => hfree (List.mem_reverse.mp hmem)
  rw [insert_of_none (get?_ofIds_of_not_mem hfree), reserve_of_free hclean htaken]
  simp [ofIds]

theorem reserve_congr (h : t.taken = u.taken) (text : String) :
    (t.reserve text).1 = (u.reserve text).1 := by
  rw [reserve, reserve, h]

end IdTable

namespace Chart

def cleaned (c : Chart) : Chart := { c with nodes := c.clean.nodes, edges := c.clean.edges }

namespace Cleaned

variable {ns : List Node} {es : List Edge} {nodeIds : IdTable}

theorem foldl_addNode_of_proper (hnodup : (ns.map (·.id)).Nodup) (hproper : ∀ n ∈ ns, Proper n.id) :
    ns.foldl addNode {} = { nodes := ns, nodeIds := .ofIds (ns.map (·.id)) } := by
  -- From the end: what is taken are the identifiers of the nodes before, so a node keeps its own.
  induction ns using List.reverseRecOn with
  | nil => rfl
  | append_singleton ns n ih =>
    obtain ⟨hfree, hns⟩ := nodup_map_append_singleton.mp hnodup
    obtain ⟨hne, hclean⟩ := hproper n (List.mem_append_right _ List.mem_cons_self)
    have hadd : ¬ (n.id = "" ∨ (IdTable.ofIds (ns.map (·.id))).contains n.id = true) := by
      simp [hne, IdTable.contains, IdTable.get?_ofIds_of_not_mem hfree]
    rw [List.foldl_append, ih hns fun m hm => hproper m (List.mem_append_left _ hm),
      List.foldl_cons, List.foldl_nil, addNode_of_usable hadd, IdTable.insert_ofIds hclean hfree,
      List.map_append]
    rfl

theorem foldl_addEdge_of_resolved (ns : List Node) (hnodup : (es.map (·.id)).Nodup)
    (hes : ∀ e ∈ es, isClean e.id = true ∧ resolve? nodeIds e = some e) :
    es.foldl addEdge { nodes := ns, nodeIds } =
      { nodes := ns, nodeIds, edges := es, edgeIds := { taken := (es.map (·.id)).reverse } } := by
  induction es using List.reverseRecOn with
  | nil => rfl
  | append_singleton es e ih =>
    obtain ⟨hnew, hbefore⟩ := nodup_map_append_singleton.mp hnodup
    have hfree : e.id ∉ (es.map (·.id)).reverse := mt List.mem_reverse.mp hnew
    obtain ⟨hclean, hresolve⟩ := hes e (List.mem_append_right _ List.mem_cons_self)
    rw [List.foldl_append, ih hbefore fun f hf => hes f (List.mem_append_left _ hf),
      List.foldl_cons, List.foldl_nil, addEdge_of_some hresolve,
      IdTable.reserve_of_free hclean hfree]
    simp

end Cleaned

open Cleaned

theorem taken_foldl_addNode (ns : List Node) :
    (ns.foldl addNode {}).nodeIds.taken = ((ns.foldl addNode {}).nodes.map (·.id)).reverse := by
  induction ns using List.reverseRecOn with
  | nil => rfl
  | append_singleton ns n ih =>
    rw [List.foldl_append, List.foldl_cons, List.foldl_nil]
    by_cases hn : n.id = "" ∨ (ns.foldl addNode {}).nodeIds.contains n.id
    · rw [addNode_of_unusable hn]
      exact ih
    · have hnone : (ns.foldl addNode {}).nodeIds.get? n.id = none := by
        simpa [IdTable.contains] using (not_or.mp hn).2
      rw [addNode_of_usable hn, IdTable.insert_of_none hnone, ih]
      simp

theorem entries_foldl_addEdge (es : List Edge) (g : Cleaned) :
    (es.foldl addEdge g).edgeIds.entries = g.edgeIds.entries := by
  induction es generalizing g with
  | nil => rfl
  | cons e es ih =>
    rw [List.foldl_cons, ih]
    cases hresolve : resolve? g.nodeIds e with
    | none => rw [addEdge_of_none hresolve]
    | some resolved =>
      rw [addEdge_of_some hresolve]
      rfl

variable (c : Chart)

theorem nodeIds_taken : c.clean.nodeIds.taken = (c.clean.nodes.map (·.id)).reverse := by
  rw [clean_nodeIds, taken_foldl_addNode, (afterEdges_clean c).kept.1]

theorem edgeIds_eq : c.clean.edgeIds = { taken := (c.clean.edges.map (·.id)).reverse } := by
  have hentries : c.clean.edgeIds.entries = [] := by
    rw [clean, entries_foldl_addEdge, (afterNodes c.nodes).edges.2.1]
  rw [← (afterEdges_clean c).taken, ← hentries]

variable {c}

theorem proper_of_mem_clean_nodes {n : Node} (h : n ∈ c.clean.nodes) : Proper n.id := by
  apply c.proper_of_mem_nodeIds
  rw [nodeIds_taken, List.mem_reverse]
  exact List.mem_map_of_mem h

theorem idOf_mem_clean_nodes {key : String} (h : c.isNode key = true) :
    c.idOf key ∈ c.clean.nodes.map (·.id) := by
  have htaken := idOf_mem_taken h
  rwa [nodeIds_taken, List.mem_reverse] at htaken

theorem cleanHandle_ofIds {ids : List String} {handle : Option String} (h : ∀ x ∈ handle, Proper x) :
    cleanHandle (.ofIds ids) handle = handle := by
  cases handle with
  | none => rfl
  | some x =>
    obtain ⟨hne, hclean⟩ := h x rfl
    have hfilter : (some x).filter (· ≠ "") = some x := by simp [hne]
    rw [cleanHandle, hfilter, Option.map_some]
    by_cases hmem : x ∈ ids
    · rw [IdTable.get?_ofIds hmem, Option.getD_some]
    · rw [IdTable.get?_ofIds_of_not_mem hmem, Option.getD_none, clean_of_isClean hclean]

theorem resolve?_of_mem_clean_edges {e : Edge} (h : e ∈ c.clean.edges) :
    resolve? (.ofIds (c.clean.nodes.map (·.id))) e = some e := by
  obtain ⟨raw, hraw, heq⟩ := exists_of_mem_clean_edges h
  obtain ⟨hs, ht⟩ := isNode_of_mem_usableEdges hraw
  have hid : e.id ≠ "" := (proper_of_mem_clean_edges h).1
  have hsource : e.source ∈ c.clean.nodes.map (·.id) := heq ▸ idOf_mem_clean_nodes hs
  have htarget : e.target ∈ c.clean.nodes.map (·.id) := heq ▸ idOf_mem_clean_nodes ht
  have hsourceHandle : ∀ x ∈ e.sourceHandle, Proper x := by
    rw [heq]
    exact fun x => proper_of_mem_cleanHandle
  have htargetHandle : ∀ x ∈ e.targetHandle, Proper x := by
    rw [heq]
    exact fun x => proper_of_mem_cleanHandle
  simp only [resolve?, hid, if_false, IdTable.get?_ofIds hsource, IdTable.get?_ofIds htarget,
    cleanHandle_ofIds hsourceHandle, cleanHandle_ofIds htargetHandle]

variable (c)

theorem clean_cleaned : c.cleaned.clean =
    { nodes := c.clean.nodes
      edges := c.clean.edges
      nodeIds := .ofIds (c.clean.nodes.map (·.id))
      edgeIds := c.clean.edgeIds } := by
  have hnodes := foldl_addNode_of_proper c.clean_node_ids_nodup fun _ => proper_of_mem_clean_nodes
  have hedges := foldl_addEdge_of_resolved c.clean.nodes c.clean_edge_ids_nodup fun e he =>
    ⟨(proper_of_mem_clean_edges he).2, resolve?_of_mem_clean_edges he⟩
  rw [clean, cleaned, hnodes, hedges, ← edgeIds_eq]

end Chart

namespace Compile

open Assembly

variable {st st' : Staffed}

/-- Staffed alike, but for the entries of the tables, which are not looked at any more. -/
structure Alike (st st' : Staffed) : Prop where
  nodes : st.nodes = st'.nodes
  taken : st.ids.taken = st'.ids.taken
  added : st.added = st'.added

theorem Alike.withGreeting (h : Alike st st') (s : Settings) :
    Alike (st.withGreeting s) (st'.withGreeting s) := by
  have hid := IdTable.reserve_congr h.taken "default_greeting"
  rw [Staffed.withGreeting, Staffed.withGreeting, h.nodes]
  split
  · exact h
  · exact ⟨by simp only [hid], by simp only [IdTable.reserve_taken, hid, h.taken],
      by simp only [hid, h.added]⟩

theorem Alike.withClosing (h : Alike st st') (s : Settings) :
    Alike (st.withClosing s) (st'.withClosing s) := by
  have hid := IdTable.reserve_congr h.taken "end_call"
  rw [Staffed.withClosing, Staffed.withClosing, h.nodes]
  split
  · exact h
  · exact ⟨by simp only [hid], by simp only [IdTable.reserve_taken, hid, h.taken],
      by simp only [hid, h.added]⟩

theorem castOf_congr (s : Settings) {g g' : Chart.Cleaned} (hnodes : g.nodes = g'.nodes)
    (htaken : g.nodeIds.taken = g'.nodeIds.taken) (spoken : List Chart.Node)
    (conditions : Conditions) : castOf s g spoken conditions = castOf s g' spoken conditions := by
  have hplain : Alike ⟨spoken.map (Assembly.node s), g.nodeIds, []⟩
      ⟨spoken.map (Assembly.node s), g'.nodeIds, []⟩ := ⟨rfl, htaken, rfl⟩
  have hstaffed := (hplain.withGreeting s).withClosing s
  simp only [castOf, hnodes, hstaffed.nodes, hstaffed.added]

end Compile

open Compile

/-- Cleaning a clean chart leaves out nothing and changes nothing, and the chart compiles the same. -/
theorem compile_cleaned (s : Settings) (m : Metadata) (now : Int) (c : Chart) :
    c.cleaned.clean.droppedNodes = [] ∧ c.cleaned.clean.droppedEdges = [] ∧
      c.cleaned.clean.nodes = c.cleaned.nodes ∧ c.cleaned.clean.edges = c.cleaned.edges ∧
      (compile s m now c.cleaned).Agree (compile s m now c) := by
  have hclean := c.clean_cleaned
  have hnodes : c.cleaned.clean.nodes = c.clean.nodes := by rw [hclean]
  have htaken : c.cleaned.clean.nodeIds.taken = c.clean.nodeIds.taken := by
    rw [hclean, c.nodeIds_taken]
    rfl
  -- The tables of the nodes differ in their keys, which nothing looks at any more.
  have hcast := castOf_congr s hnodes htaken
  rw [hclean] at hcast
  have hedges : c.cleaned.clean.edges = c.clean.edges := by rw [hclean]
  refine ⟨by rw [hclean], by rw [hclean], hnodes, hedges, ?_⟩
  unfold compile
  simp only [hclean, hcast]
  exact ⟨rfl, rfl, rfl, rfl, rfl⟩

/-- The suffix that the second of these nodes is given stays as it is. -/
example : ({ nodes := [⟨"a-b", .question "", none, none, false, []⟩,
      ⟨"a_b", .question "", none, none, false, []⟩] } : Chart).cleaned.clean.nodes.map (·.id) =
    ["a_b", "a_b_2"] := by decide

end Callflow
