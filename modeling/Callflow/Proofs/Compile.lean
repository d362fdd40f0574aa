import Callflow.Proofs.Cast
import Callflow.Proofs.Routing

/-!
What a compilation is made of: its nodes, of which one is the start, and its edges, each drawn as
the class of an edge of the chart says, or else a connection between greeting and closing.
-/

namespace Callflow

/-- Where an edge of a chart is drawn in a pathway with the start `start`. -/
def Chart.drawnEnds? (c : Chart) (start : String) (e : Chart.Edge) : Option (String × String) :=
  match c.edgeClass e with
  | .unusable => none
  | .intoConditional => none
  | .fromConditional => some (start, c.idOf e.target)
  | .plain => some (c.idOf e.source, c.idOf e.target)

namespace Compile

open Identifier

variable (s : Settings) (m : Metadata) (now : Int) (c : Chart)

/-- Where an edge from a node of the chart leaves from: the start, if the node is a conditional. -/
def drawnSource (key : String) : String :=
  if c.isConditionalNode key then startId c else c.idOf key

def context : Routing.Context :=
  ⟨spoken c, conditionsOf c.clean.nodes, (cast s c).nodes.map (·.id), (cast s c).start.map (·.1)⟩

def routed : Routing.Routed := Routing.route (context s c) c.clean.edgeIds c.clean.edges

def connection? : Option Pathway.Edge :=
  Assembly.connection? (cast s c).nodes (routed s c).edges (routed s c).ids

theorem compile_edges :
    (compile s m now c).pathway.edges = (routed s c).edges ++ (connection? s c).toList := rfl

theorem compile_droppedEdges :
    (compile s m now c).diagnostics.droppedEdges =
      c.clean.droppedEdges ++ (routed s c).dropped := rfl

theorem compile_synthesized :
    (compile s m now c).diagnostics.synthesized =
      (front s c ++ back s c).map (·.id) ++ (connection? s c).toList.map (·.id) := by
  rw [← staffed_added]
  rfl

theorem designateStart_id (n : Pathway.Node) : (designateStart s c n).id = n.id := by
  unfold designateStart
  split <;> rfl

theorem designateStart_type (n : Pathway.Node) : (designateStart s c n).type = n.type := by
  unfold designateStart
  split <;> rfl

theorem forall_mem_cast {p : Pathway.Node → Prop} (hstaffed : ∀ n ∈ (staffed s c).nodes, p n)
    (hstart : ∀ n, p n → p (Start.designate (asked s c) n)) : ∀ n ∈ (cast s c).nodes, p n := by
  intro n hn
  rw [cast_nodes] at hn
  obtain ⟨k, hk, rfl⟩ := List.mem_map.mp hn
  rw [designateStart]
  split
  · exact hstart k (hstaffed k hk)
  · exact hstaffed k hk

theorem cast_ids : (cast s c).nodes.map (·.id) = (staffed s c).nodes.map (·.id) := by
  rw [cast_nodes, List.map_map]
  exact List.map_congr_left fun n _ => designateStart_id s c n

theorem cast_ids_nodup : ((cast s c).nodes.map (·.id)).Nodup := by
  rw [cast_ids]
  exact staffed_ids_nodup s c

theorem exists_cast_nodes_eq :
    ∃ before start after, (staffed s c).nodes = before ++ start :: after ∧ start.id = startId c ∧
      (cast s c).nodes = before ++ Start.designate (asked s c) start :: after := by
  obtain ⟨start, hmem, hid⟩ := exists_start s c
  obtain ⟨before, after, hnodes⟩ := List.append_of_mem hmem
  have hnodup := staffed_ids_nodup s c
  rw [hnodes, List.map_append, List.map_cons] at hnodup
  obtain ⟨_, hcons, hdisjoint⟩ := List.nodup_append.mp hnodup
  have hsame (l : List Pathway.Node) (h : ∀ n ∈ l, n.id ≠ startId c) :
      l.map (designateStart s c) = l := by
    rw [List.map_congr_left (g := id), List.map_id]
    intro n hn
    simp [designateStart, h n hn]
  refine ⟨before, start, after, hnodes, hid, ?_⟩
  rw [cast_nodes, hnodes, List.map_append, List.map_cons, hsame before, hsame after]
  · simp [designateStart, hid]
  · intro n hn he
    exact (List.nodup_cons.mp hcons).1 (by
      rw [hid, ← he]
      exact List.mem_map_of_mem hn)
  · intro n hn he
    exact hdisjoint n.id (List.mem_map_of_mem hn) start.id List.mem_cons_self (he.trans hid.symm)

theorem filter_isStart_cast_designate :
    ∃ start, (cast s c).nodes.filter (·.isStart) = [Start.designate (asked s c) start] ∧
      start.id = startId c := by
  obtain ⟨before, start, after, hnodes, hid, hcast⟩ := exists_cast_nodes_eq s c
  have hplain (l : List Pathway.Node) (hl : ∀ n ∈ l, n ∈ (staffed s c).nodes) :
      l.filter (·.isStart) = [] := by
    rw [List.filter_eq_nil_iff]
    intro n hn
    simp [(isPlain_of_mem_staffed (hl n hn)).isStart]
  refine ⟨start, ?_, hid⟩
  rw [hcast, List.filter_append, List.filter_cons_of_pos rfl, hplain before, hplain after]
  · rfl
  · intro n hn
    rw [hnodes]
    exact List.mem_append_right _ (List.mem_cons_of_mem _ hn)
  · intro n hn
    rw [hnodes]
    exact List.mem_append_left _ hn

theorem filter_isStart_cast :
    ∃ start, (cast s c).nodes.filter (·.isStart) = [start] ∧ start.id = startId c := by
  obtain ⟨start, hfilter, hid⟩ := filter_isStart_cast_designate s c
  exact ⟨Start.designate (asked s c) start, hfilter, hid⟩

theorem enforceSingle_cast : Start.enforceSingle (cast s c).nodes = ((cast s c).nodes, 0) := by
  obtain ⟨before, start, after, hnodes, _, hcast⟩ := exists_cast_nodes_eq s c
  have hplain : ∀ n ∈ before ++ start :: after, n.isStart = false := by
    intro n hn
    rw [← hnodes] at hn
    exact (isPlain_of_mem_staffed hn).isStart
  rw [hcast]
  refine Start.enforceSingle_of_single ?_ rfl ?_
  · intro n hn
    exact hplain n (List.mem_append_left _ hn)
  · intro n hn
    exact hplain n (List.mem_append_right _ (List.mem_cons_of_mem _ hn))

theorem compile_nodes :
    (compile s m now c).pathway.nodes = (cast s c).nodes.map .node ++ [.globalConfig ""] := by
  have hnodes : (compile s m now c).pathway.nodes =
      (Start.enforceSingle (cast s c).nodes).1.map .node ++ [.globalConfig ""] := rfl
  rw [hnodes, enforceSingle_cast]

theorem compile_outputNodes :
    (compile s m now c).pathway.outputNodes = (cast s c).nodes := by
  rw [Pathway.outputNodes, compile_nodes, List.filterMap_append, List.filterMap_map]
  have hnode : Pathway.Entry.node? ∘ Pathway.Entry.node = some := rfl
  rw [hnode, List.filterMap_some]
  exact List.append_nil _

theorem compile_clearedStartFlags :
    (compile s m now c).diagnostics.clearedStartFlags = 0 := by
  have hcleared : (compile s m now c).diagnostics.clearedStartFlags =
      (Start.enforceSingle (cast s c).nodes).2 := rfl
  rw [hcleared, enforceSingle_cast]

theorem compile_eq :
    compile s m now c =
      { pathway :=
          { name := nameOf m now c
            description := descriptionOf m now c
            nodes := (cast s c).nodes.map .node ++ [.globalConfig ""]
            edges := (routed s c).edges ++ (connection? s c).toList }
        diagnostics :=
          { droppedNodes := c.clean.droppedNodes
            droppedEdges := c.clean.droppedEdges ++ (routed s c).dropped
            unparsedConditions := unparsed (conditionsOf c.clean.nodes)
            synthesized := (staffed s c).added ++ (connection? s c).toList.map (·.id)
            startRule := (cast s c).start.map (·.2)
            clearedStartFlags := 0 } } := by
  rw [← compile_nodes s m now c, ← compile_clearedStartFlags s m now c]
  rfl

theorem compile_startRule :
    (compile s m now c).diagnostics.startRule =
      some (((chosen? (spoken c)).map (·.2)).getD (silentRule s)) := by
  rw [compile_eq, cast_start_eq]
  cases chosen? (spoken c) <;> rfl

theorem exists_find?_cast {p : Pathway.Node → Bool} (hp : ∀ n, p (designateStart s c n) = p n)
    {n : Pathway.Node} (hn : n ∈ (staffed s c).nodes) (h : p n = true) :
    ∃ found, (cast s c).nodes.find? p = some found := by
  refine Option.isSome_iff_exists.mp (List.find?_isSome.mpr ⟨designateStart s c n, ?_, ?_⟩)
  · rw [cast_nodes]
    exact List.mem_map_of_mem hn
  · rw [hp, h]

theorem exists_default : ∃ n, (cast s c).nodes.find? Assembly.isDefault = some n := by
  have hp (n : Pathway.Node) : Assembly.isDefault (designateStart s c n) = Assembly.isDefault n := by
    rw [Assembly.isDefault, designateStart_type, Assembly.isDefault]
  cases hd : (middle s c).any Assembly.isDefault with
  | true =>
    obtain ⟨n, hn, hdef⟩ := List.any_eq_true.mp hd
    exact exists_find?_cast s c hp (mem_staffed.mpr (.inr (.inl hn))) hdef
  | false =>
    have hn : Assembly.greeting s (greetingId c) ∈ front s c := by simp [front, hd]
    exact exists_find?_cast s c hp (mem_staffed.mpr (.inl hn)) rfl

theorem exists_endCall : ∃ n, (cast s c).nodes.find? Assembly.isEndCall = some n := by
  have hp (n : Pathway.Node) : Assembly.isEndCall (designateStart s c n) = Assembly.isEndCall n := by
    rw [Assembly.isEndCall, designateStart_type, Assembly.isEndCall]
  cases he : (middle s c).any Assembly.isEndCall with
  | true =>
    obtain ⟨n, hn, hend⟩ := List.any_eq_true.mp he
    exact exists_find?_cast s c hp (mem_staffed.mpr (.inr (.inl hn))) hend
  | false =>
    have hn : Assembly.closing s (closingId s c) ∈ back s c := by simp [back, he]
    exact exists_find?_cast s c hp (mem_staffed.mpr (.inr (.inr hn))) rfl

theorem of_find?_isDefault {nodes : List Pathway.Node} {n : Pathway.Node}
    (h : nodes.find? Assembly.isDefault = some n) : n ∈ nodes ∧ n.type = .default :=
  ⟨List.mem_of_find?_eq_some h, eq_of_beq (List.find?_some h : Assembly.isDefault n = true)⟩

theorem of_find?_isEndCall {nodes : List Pathway.Node} {n : Pathway.Node}
    (h : nodes.find? Assembly.isEndCall = some n) : n ∈ nodes ∧ n.type = .endCall :=
  ⟨List.mem_of_find?_eq_some h, eq_of_beq (List.find?_some h : Assembly.isEndCall n = true)⟩

theorem exists_mem_default : ∃ n ∈ (cast s c).nodes, n.type = .default := by
  obtain ⟨n, hn⟩ := exists_default s c
  exact ⟨n, of_find?_isDefault hn⟩

theorem exists_mem_endCall : ∃ n ∈ (cast s c).nodes, n.type = .endCall := by
  obtain ⟨n, hn⟩ := exists_endCall s c
  exact ⟨n, of_find?_isEndCall hn⟩

theorem two_le_length {α : Type} {as : List α} {a b : α} (ha : a ∈ as) (hb : b ∈ as)
    (hab : a ≠ b) : 2 ≤ as.length := by
  match as with
  | [] => simp at ha
  | [x] =>
    rw [List.mem_singleton] at ha hb
    exact absurd (ha.trans hb.symm) hab
  | _ :: _ :: _ => simp

/-- A pathway without edges, and only such a one, is given the edge from its first plain node to its
first closing. -/
theorem exists_connection?_eq :
    ∃ a b, (cast s c).nodes.find? Assembly.isDefault = some a ∧
      (cast s c).nodes.find? Assembly.isEndCall = some b ∧
      connection? s c =
        if (routed s c).edges = [] then
          some (.labelled ((routed s c).ids.reserve
            (a.id ++ "_" ++ Routing.fallbackLabel ++ "_" ++ b.id)).1 a.id b.id
            Routing.fallbackLabel)
        else none := by
  obtain ⟨a, ha⟩ := exists_default s c
  obtain ⟨b, hb⟩ := exists_endCall s c
  refine ⟨a, b, ha, hb, ?_⟩
  have hda : Assembly.isDefault a = true := List.find?_some ha
  have hdb : Assembly.isEndCall b = true := List.find?_some hb
  have hab : a ≠ b := by
    rintro rfl
    rw [Assembly.isEndCall, eq_of_beq hda] at hdb
    exact absurd hdb (by decide)
  have hlen := two_le_length (List.mem_of_find?_eq_some ha) (List.mem_of_find?_eq_some hb) hab
  rw [connection?, Assembly.connection?, ha, hb]
  by_cases hr : (routed s c).edges = []
  · simp [hr, Nat.not_lt.mpr hlen]
  · simp [hr]

variable {c} {key : String}

theorem idOf_mem_outputIds (h : c.isNode key = true) :
    c.idOf key ∈ (context s c).outputIds ↔ c.isConditionalNode key = false := by
  have hids : (context s c).outputIds = (staffed s c).nodes.map (·.id) := cast_ids s c
  rw [hids]
  constructor
  · intro hmem
    obtain ⟨n, hn, hid⟩ := List.mem_map.mp hmem
    have htaken : n.id ∈ c.clean.nodeIds.taken := hid ▸ Chart.idOf_mem_taken h
    have hmiddle : n ∈ middle s c := by
      rcases mem_staffed.mp hn with hn | hn | hn
      · exact absurd htaken (added_not_mem_taken (.inl hn))
      · exact hn
      · exact absurd htaken (added_not_mem_taken (.inr hn))
    have hids' : n.id ∈ (middle s c).map (·.id) := List.mem_map_of_mem hmiddle
    rw [middle_ids] at hids'
    obtain ⟨p, hp, hpid⟩ := List.mem_map.mp hids'
    obtain ⟨hpu, hpc⟩ := mem_speakingNodes.mp hp
    have hkey : p.id = key := Chart.idOf_inj (Chart.isNode_id hpu) h (hpid.trans hid)
    rw [← hkey, Chart.isConditionalNode_id hpu, hpc]
  · intro hcond
    obtain ⟨p, hp, rfl⟩ := List.mem_map.mp (Chart.isNode_iff.mp h)
    rw [Chart.isConditionalNode_id hp] at hcond
    have hids' : c.idOf p.id ∈ (middle s c).map (·.id) := by
      rw [middle_ids]
      exact List.mem_map_of_mem (mem_speakingNodes.mpr ⟨hp, hcond⟩)
    obtain ⟨n, hn, hid⟩ := List.mem_map.mp hids'
    exact List.mem_map.mpr ⟨n, mem_staffed.mpr (.inr (.inl hn)), hid⟩

theorem lookup_conditionsOf_isSome {nodes : List Chart.Node} {id : String} :
    ((conditionsOf nodes).lookup id).isSome = true ↔
      ∃ n ∈ nodes, n.isConditional = true ∧ n.id = id := by
  induction nodes with
  | nil => simp [conditionsOf]
  | cons n nodes ih =>
    cases hk : n.kind with
    | conditional text =>
      have hcons : conditionsOf (n :: nodes) =
          (n.id, Condition.read? text) :: conditionsOf nodes := by
        simp [conditionsOf, hk]
      rw [hcons, List.lookup_cons]
      by_cases he : id = n.id
      · simp [he, Chart.Node.isConditional, Chart.Kind.isConditional, hk]
      · have hne : (id == n.id) = false := by simpa using he
        rw [hne, ih]
        simp [Ne.symm he]
    | _ =>
      have hcons : conditionsOf (n :: nodes) = conditionsOf nodes := by
        simp [conditionsOf, hk]
      rw [hcons, ih]
      simp [Chart.Node.isConditional, Chart.Kind.isConditional, hk]

theorem lookup_conditions (h : c.isNode key = true) :
    ((context s c).conditions.lookup (c.idOf key)).isSome = c.isConditionalNode key := by
  have hconditions : (context s c).conditions = conditionsOf c.clean.nodes := rfl
  rw [Bool.eq_iff_iff, hconditions, lookup_conditionsOf_isSome, Chart.clean_nodes]
  obtain ⟨p, hp, rfl⟩ := List.mem_map.mp (Chart.isNode_iff.mp h)
  rw [Chart.isConditionalNode_id hp]
  constructor
  · rintro ⟨n, hn, hcond, hid⟩
    obtain ⟨q, hq, rfl⟩ := List.mem_map.mp hn
    rwa [← Chart.eq_of_id_eq hq hp
      (Chart.idOf_inj (Chart.isNode_id hq) (Chart.isNode_id hp) hid)]
  · intro hcond
    exact ⟨p.tidy c.clean.nodeIds, List.mem_map_of_mem hp, hcond, rfl⟩

variable {e : Chart.Edge}

theorem drawnEnds?_of_unusable (h : c.isUsableEdge e = false) :
    c.drawnEnds? (startId c) e = none := by
  simp [Chart.drawnEnds?, Chart.edgeClass, h]

theorem drawnEnds?_of_usable (h : c.isUsableEdge e = true) :
    c.drawnEnds? (startId c) e =
      if c.isConditionalNode e.target then none
      else some (drawnSource c e.source, c.idOf e.target) := by
  cases ht : c.isConditionalNode e.target with
  | true => simp [Chart.drawnEnds?, Chart.edgeClass, h, ht]
  | false =>
    cases hs : c.isConditionalNode e.source <;>
      simp [Chart.drawnEnds?, Chart.edgeClass, drawnSource, h, ht, hs]

theorem ends?_tidy (he : e ∈ c.usableEdges) (id : String) :
    Routing.ends? (context s c) { e.tidy c.clean.nodeIds with id := id } =
      c.drawnEnds? (startId c) e := by
  obtain ⟨_, hu⟩ := List.mem_filter.mp he
  obtain ⟨hs, ht⟩ := Chart.isNode_of_mem_usableEdges he
  have hstart : (context s c).startId = some (startId c) := cast_start s c
  have htarget := idOf_mem_outputIds s ht
  have hsource := idOf_mem_outputIds s hs
  have hlookup := lookup_conditions s hs
  change Routing.ends? (context s c)
    { e.tidy c.clean.nodeIds with id := id, source := c.idOf e.source, target := c.idOf e.target } = _
  rw [drawnEnds?_of_usable hu]
  cases hct : c.isConditionalNode e.target with
  | true => simp [Routing.ends?, htarget, hct]
  | false =>
    cases hcs : c.isConditionalNode e.source with
    | true => simp [Routing.ends?, drawnSource, htarget, hct, hcs, hlookup, hstart]
    | false => simp [Routing.ends?, drawnSource, htarget, hsource, hct, hcs, hlookup]

theorem filterMap_eq_of_forall₂ {α β γ : Type} {R : α → β → Prop} {f : α → Option γ}
    {g : β → Option γ} {as : List α} {bs : List β} (h : List.Forall₂ R as bs)
    (hfg : ∀ a b, R a b → g b = f a) : bs.filterMap g = as.filterMap f := by
  induction h with
  | nil => rfl
  | cons hab _ ih => rw [List.filterMap_cons, List.filterMap_cons, hfg _ _ hab, ih]

variable (c)

theorem routed_ends :
    (routed s c).edges.map (fun o => (o.source, o.target)) =
      c.edges.filterMap (c.drawnEnds? (startId c)) := by
  have hclean := (List.forall₂_and_left _ _).mpr ⟨fun _ he => he, c.clean_edges⟩
  have huse : c.edges.filterMap (c.drawnEnds? (startId c)) =
      c.usableEdges.filterMap (c.drawnEnds? (startId c)) := by
    rw [Chart.usableEdges, List.filterMap_filter]
    refine List.filterMap_congr ?_
    intro e _
    cases hu : c.isUsableEdge e with
    | false => simp [drawnEnds?_of_unusable hu]
    | true => simp
  rw [routed, Routing.route_ends, huse]
  refine filterMap_eq_of_forall₂ hclean ?_
  rintro e e' ⟨he, hclean'⟩
  rw [hclean']
  exact ends?_tidy s he e'.id

end Compile

end Callflow
