import Callflow.Proofs.Compile
import Callflow.Proofs.Label
import Callflow.Proofs.Written

/-!
What is drawn for each edge of a chart: from where to where, by which handles and under which label.
The edges that are drawn are those of use that lead to a node that speaks, in the order of the chart.
-/

namespace Callflow

open Text

namespace Routing

variable {ctx : Context}

/-- An edge is drawn for another, whatever the table gave it for an identifier. -/
def Draws (ctx : Context) (e : Chart.Edge) (o : Pathway.Edge) : Prop :=
  ∃ ids ids', route? ctx ids e = some (o, ids')

theorem route_draws (ctx : Context) (ids : IdTable) (es : List Chart.Edge) :
    List.Forall₂ (Draws ctx) (es.filter fun e => (ends? ctx e).isSome) (route ctx ids es).edges := by
  induction es generalizing ids with
  | nil => exact .nil
  | cons e es ih =>
    cases h : route? ctx ids e with
    | none =>
      rw [route_cons_of_none h, List.filter_cons_of_neg (by simp [ends?_of_none h])]
      exact ih ids
    | some r =>
      obtain ⟨o, ids'⟩ := r
      rw [route_cons_of_some h, List.filter_cons_of_pos (by simp [ends?_of_some h])]
      exact .cons ⟨ids, ids', h⟩ (ih ids')

end Routing

theorem Routing.isLabel_fallbackLabel : IsLabel fallbackLabel :=
  isLabel_of_any (by decide) (by decide)

namespace Chart

def Kind.condition? : Kind → Option Condition
  | .conditional text => Condition.read? text
  | _ => none

theorem Kind.condition?_of_not_isConditional {kind : Kind} (h : kind.isConditional = false) :
    kind.condition? = none := by
  cases kind with
  | conditional text => cases h
  | _ => rfl

theorem Kind.isRead_of_condition? {kind : Kind} {found : Condition}
    (h : kind.condition? = some found) : found.IsRead := by
  cases kind with
  | conditional text => exact Condition.isRead_of_read? h
  | _ => cases h

def Kind.options : Kind → List String
  | .customerResponse _ options _ => options
  | _ => []

def Kind.optionAt? (kind : Kind) (handle : Option String) : Option String :=
  (handle.bind Routing.responseIndex?).bind fun i => trimmed? kind.options[i]?

/-- The label of what is drawn for an edge that leaves a node of a kind by a handle: that of the
branch, or else the first that is not blank of the label of the data, the label and the option. -/
def Kind.labelOf (kind : Kind) (handle : Option String) (e : Edge) : String :=
  match kind.condition? with
  | some found => found.labelFor handle
  | none => (((trimmed? e.dataLabel).or (trimmed? e.label)).or (kind.optionAt? handle)).getD
      Routing.fallbackLabel

theorem Kind.isLabel_labelOf (kind : Kind) (handle : Option String) (e : Edge) :
    IsLabel (kind.labelOf handle e) := by
  rw [labelOf]
  cases hfound : kind.condition? with
  | some found => exact (isRead_of_condition? hfound).isLabel_labelFor handle
  | none =>
    have hoption : ∀ t ∈ kind.optionAt? handle, IsLabel t := by
      intro t ht
      obtain ⟨i, _, hi⟩ := Option.bind_eq_some_iff.mp ht
      exact isLabel_of_mem_trimmed? hi
    have htrimmed (a : Option String) : ∀ t ∈ trimmed? a, IsLabel t := fun _ =>
      isLabel_of_mem_trimmed?
    exact getD_of_forall_mem
      (forall_mem_or (forall_mem_or (htrimmed e.dataLabel) (htrimmed e.label)) hoption)
      Routing.isLabel_fallbackLabel

end Chart

namespace Compile

variable {c : Chart} {nodes : List Chart.Node} {n : Chart.Node} {e : Chart.Edge}

theorem keys_conditionsOf (nodes : List Chart.Node) :
    ((conditionsOf nodes).map (·.1)).Sublist (nodes.map (·.id)) := by
  induction nodes with
  | nil => exact .slnil
  | cons n nodes ih =>
    rw [conditionsOf, List.filterMap_cons, List.map_cons]
    cases n.kind with
    | conditional text => exact ih.cons_cons n.id
    | _ => exact ih.cons n.id

theorem lookup_conditionsOf (hnodes : (nodes.map (·.id)).Nodup) (hn : n ∈ nodes) :
    (conditionsOf nodes).lookup n.id =
      if n.isConditional then some n.kind.condition? else none := by
  have hkeys := hnodes.sublist (keys_conditionsOf nodes)
  cases hcond : n.isConditional with
  | true =>
    apply Json.Value.lookup_of_mem hkeys
    apply List.mem_filterMap.mpr
    refine ⟨n, hn, ?_⟩
    cases hk : n.kind with
    | conditional text => rfl
    | _ => simp [Chart.Node.isConditional, Chart.Kind.isConditional, hk] at hcond
  | false =>
    rw [if_neg (by simp), ← Option.not_isSome_iff_eq_none, lookup_conditionsOf_isSome]
    rintro ⟨m, hm, hmcond, hid⟩
    rw [List.inj_on_of_nodup_map hnodes hm hn hid, hcond] at hmcond
    cases hmcond

theorem find?_id (hnodes : (nodes.map (·.id)).Nodup) (hn : n ∈ nodes) :
    nodes.find? (·.id = n.id) = some n := by
  have hsome : (nodes.find? (·.id = n.id)).isSome = true :=
    List.find?_isSome.mpr ⟨n, hn, by simp⟩
  obtain ⟨m, hm⟩ := Option.isSome_iff_exists.mp hsome
  have hid : m.id = n.id := by simpa using List.find?_some hm
  rw [hm, List.inj_on_of_nodup_map hnodes (List.mem_of_find?_eq_some hm) hn hid]

theorem findRev?_id (hnodes : (nodes.map (·.id)).Nodup) (hn : n ∈ nodes) :
    nodes.findRev? (·.id = n.id) = some n := by
  rw [List.findRev?_eq_find?_reverse]
  refine find?_id ?_ (List.mem_reverse.mpr hn)
  rw [List.map_reverse]
  exact List.nodup_reverse.mpr hnodes

theorem spoken_ids_nodup (c : Chart) : ((spoken c).map (·.id)).Nodup :=
  (c.clean_node_ids_nodup).sublist (List.filter_sublist.map _)

theorem tidy_mem_spoken (hn : n ∈ c.usableNodes) (hcond : n.isConditional = false) :
    n.tidy c.clean.nodeIds ∈ spoken c := by
  rw [spoken_eq]
  exact List.mem_map_of_mem (mem_speakingNodes.mpr ⟨hn, hcond⟩)

theorem findRev?_spoken_of_conditional (hn : n ∈ c.usableNodes) (hcond : n.isConditional = true) :
    (spoken c).findRev? (·.id = c.idOf n.id) = none := by
  rw [List.findRev?_eq_find?_reverse, List.find?_eq_none]
  intro m hm hid
  rw [List.mem_reverse, spoken_eq] at hm
  obtain ⟨k, hk, rfl⟩ := List.mem_map.mp hm
  obtain ⟨hku, hkc⟩ := mem_speakingNodes.mp hk
  have hsame : c.idOf k.id = c.idOf n.id := of_decide_eq_true hid
  rw [Chart.eq_of_id_eq hku hn (Chart.idOf_inj (Chart.isNode_id hku) (Chart.isNode_id hn) hsame),
    hcond] at hkc
  cases hkc

theorem optionLabel?_tidy (hn : n ∈ c.usableNodes) (hsource : n.id = e.source) (id : String) :
    Routing.optionLabel? (spoken c) { e.tidy c.clean.nodeIds with id := id } =
      n.kind.optionAt? (Chart.cleanHandle c.clean.nodeIds e.sourceHandle) := by
  have hid : (c.clean.nodeIds.get? e.source).getD "" = c.idOf n.id := by rw [hsource]; rfl
  simp only [Routing.optionLabel?, Chart.Kind.optionAt?, Chart.Edge.tidy, hid]
  cases Chart.cleanHandle c.clean.nodeIds e.sourceHandle with
  | none => rfl
  | some handle =>
    cases hi : Routing.responseIndex? handle with
    | none => simp [hi]
    | some i =>
      cases hcond : n.isConditional with
      | true =>
        have hnone := findRev?_spoken_of_conditional hn hcond
        have hoptions : n.kind.options = [] := by
          cases hk : n.kind with
          | customerResponse => simp [Chart.Node.isConditional, Chart.Kind.isConditional, hk] at hcond
          | _ => rfl
        simp only [hi, hnone, hoptions, Option.bind_eq_bind, Option.bind_some]
        rfl
      | false =>
        have hsome : (spoken c).findRev? (·.id = c.idOf n.id) = some (n.tidy c.clean.nodeIds) :=
          findRev?_id (spoken_ids_nodup c) (tidy_mem_spoken hn hcond)
        simp only [hi, hsome, Option.bind_eq_bind, Option.bind_some, Chart.Node.tidy]
        cases n.kind with
        | customerResponse text options name => rfl
        | _ => rfl

theorem label_tidy (hn : n ∈ c.usableNodes) (hsource : n.id = e.source)
    (hplain : n.kind.condition? = none) (id : String) :
    Routing.label (spoken c) { e.tidy c.clean.nodeIds with id := id } =
      n.kind.labelOf (Chart.cleanHandle c.clean.nodeIds e.sourceHandle) e := by
  rw [Routing.label, optionLabel?_tidy hn hsource, Chart.Kind.labelOf, hplain]
  rfl

end Compile

namespace Chart

variable {c : Chart} {e : Edge}

theorem exists_source (he : e ∈ c.usableEdges) : ∃ n ∈ c.usableNodes, n.id = e.source :=
  List.mem_map.mp (isNode_iff.mp (isNode_of_mem_usableEdges he).1)

theorem exists_target (he : e ∈ c.usableEdges) : ∃ n ∈ c.usableNodes, n.id = e.target :=
  List.mem_map.mp (isNode_iff.mp (isNode_of_mem_usableEdges he).2)

def drawnEdges (c : Chart) : List Edge := c.usableEdges.filter (!c.isConditionalNode ·.target)

theorem mem_drawnEdges :
    e ∈ c.drawnEdges ↔ e ∈ c.usableEdges ∧ c.isConditionalNode e.target = false := by
  simp [drawnEdges]

end Chart

/-- What is drawn for an edge, its identifier aside. -/
structure Compile.IsDrawing (c : Chart) (e : Chart.Edge) (o : Pathway.Edge) : Prop where
  source : o.source = drawnSource c e.source
  target : o.target = c.idOf e.target
  sourceHandle : o.sourceHandle =
    if c.isConditionalNode e.source then none
    else Chart.cleanHandle c.clean.nodeIds e.sourceHandle
  targetHandle : o.targetHandle = Chart.cleanHandle c.clean.nodeIds e.targetHandle
  label : ∀ n ∈ c.usableNodes, n.id = e.source →
    o.label = n.kind.labelOf (Chart.cleanHandle c.clean.nodeIds e.sourceHandle) e
  dataLabel : o.dataLabel = o.label

namespace Compile

variable (s : Settings) {c : Chart} {n : Chart.Node} {e : Chart.Edge} {o : Pathway.Edge}

theorem lookup_conditions_tidy (hn : n ∈ c.usableNodes) (hsource : n.id = e.source) :
    (context s c).conditions.lookup (e.tidy c.clean.nodeIds).source =
      if n.isConditional then some n.kind.condition? else none := by
  have hlookup := lookup_conditionsOf c.clean_node_ids_nodup (Chart.tidy_mem_clean_nodes hn)
  have hid : (n.tidy c.clean.nodeIds).id = (e.tidy c.clean.nodeIds).source := by
    rw [Chart.Node.tidy, Chart.Edge.tidy, hsource]
  rwa [hid] at hlookup

theorem isConditionalNode_source (hn : n ∈ c.usableNodes) (hsource : n.id = e.source) :
    c.isConditionalNode e.source = n.isConditional :=
  hsource ▸ Chart.isConditionalNode_id hn

theorem eq_of_source (hn : n ∈ c.usableNodes) (hsource : n.id = e.source) :
    ∀ m ∈ c.usableNodes, m.id = e.source → m = n :=
  fun _ hm hid => Chart.eq_of_id_eq hm hn (hid.trans hsource.symm)

theorem isDrawing_reroot (hn : n ∈ c.usableNodes) (hsource : n.id = e.source)
    (hcond : n.isConditional = true) (id : String) (ids : IdTable) :
    IsDrawing c e (Routing.reroot (context s c) n.kind.condition? (startId c) ids
      { e.tidy c.clean.nodeIds with id := id }).1 where
  source := by
    rw [drawnSource, isConditionalNode_source hn hsource, hcond]
    rfl
  target := rfl
  sourceHandle := by
    rw [isConditionalNode_source hn hsource, hcond]
    rfl
  targetHandle := rfl
  label m hm hid := by
    rw [eq_of_source hn hsource m hm hid]
    cases hfound : n.kind.condition? with
    | some found =>
      rw [Chart.Kind.labelOf, hfound]
      rfl
    -- A conditional whose condition cannot be read is labelled like any other node.
    | none => exact label_tidy hn hsource hfound id
  dataLabel := rfl

theorem isDrawing_keep (hn : n ∈ c.usableNodes) (hsource : n.id = e.source)
    (hcond : n.isConditional = false) (id : String) :
    IsDrawing c e (Routing.keep (context s c) { e.tidy c.clean.nodeIds with id := id }) where
  source := by
    rw [drawnSource, isConditionalNode_source hn hsource, hcond]
    rfl
  target := rfl
  sourceHandle := by
    rw [isConditionalNode_source hn hsource, hcond]
    rfl
  targetHandle := rfl
  label m hm hid := by
    rw [eq_of_source hn hsource m hm hid]
    exact label_tidy hn hsource (Chart.Kind.condition?_of_not_isConditional hcond) id
  dataLabel := rfl

theorem isDrawing_of_draws (he : e ∈ c.usableEdges) {id : String}
    (h : Routing.Draws (context s c) { e.tidy c.clean.nodeIds with id := id } o) :
    IsDrawing c e o := by
  obtain ⟨ids, ids', hroute⟩ := h
  obtain ⟨n, hn, hsource⟩ := Chart.exists_source he
  have hlookup := lookup_conditions_tidy s hn hsource
  obtain ⟨_, ⟨condition, startId', hfound, hstart, rfl, _⟩ | ⟨hfound, _, rfl, _⟩⟩ :=
    Routing.route?_eq_some hroute
  · obtain rfl : startId c = startId' := Option.some.inj ((cast_start s c).symm.trans hstart)
    have hsame := hlookup.symm.trans hfound
    cases hcond : n.isConditional with
    | true =>
      rw [hcond, if_pos rfl, Option.some.injEq] at hsame
      exact hsame ▸ isDrawing_reroot s hn hsource hcond id ids
    | false => simp [hcond] at hsame
  · have hsame := hlookup.symm.trans hfound
    cases hcond : n.isConditional with
    | true => simp [hcond] at hsame
    | false => exact isDrawing_keep s hn hsource hcond id

theorem forall₂_trans {α β γ : Type} {R : α → β → Prop} {S : β → γ → Prop} {T : α → γ → Prop}
    (hT : ∀ a b d, R a b → S b d → T a d) {as : List α} {bs : List β} {ds : List γ}
    (h : List.Forall₂ R as bs) (h' : List.Forall₂ S bs ds) : List.Forall₂ T as ds := by
  induction h generalizing ds with
  | nil =>
    cases h' with
    | nil => exact .nil
  | cons hab _ ih =>
    cases h' with
    | cons hbd h' => exact .cons (hT _ _ _ hab hbd) (ih h')

variable (c)

/-- The edges that come from a chart are drawn one for each edge that leads to a node that speaks. -/
theorem routed_drawing : List.Forall₂ (IsDrawing c) c.drawnEdges (routed s c).edges := by
  have hclean := (List.forall₂_and_left _ _).mpr ⟨fun _ he => he, c.clean_edges⟩
  have hdrawn := Routing.route_draws (context s c) c.clean.edgeIds c.clean.edges
  refine forall₂_trans ?_ (List.rel_filter ?_ hclean) hdrawn
  · rintro e e' o ⟨he, hclean'⟩ ho
    rw [hclean'] at ho
    exact isDrawing_of_draws s he ho
  · rintro e e' ⟨he, hclean'⟩
    have hends : Routing.ends? (context s c) e' = c.drawnEnds? (startId c) e := by
      rw [hclean']
      exact ends?_tidy s he e'.id
    rw [drawnEnds?_of_usable (List.mem_filter.mp he).2] at hends
    cases hcond : c.isConditionalNode e.target <;> simp [hends, hcond]

variable {s c}

theorem exists_drawn_of_mem_routed (ho : o ∈ (routed s c).edges) :
    ∃ e ∈ c.drawnEdges, IsDrawing c e o :=
  Json.exists_left_of_forall₂ (routed_drawing s c) ho

theorem exists_routed_of_mem_drawn (he : e ∈ c.drawnEdges) :
    ∃ o ∈ (routed s c).edges, IsDrawing c e o :=
  Json.exists_left_of_forall₂ (List.Forall₂.flip (routed_drawing s c)) he

end Compile

end Callflow
