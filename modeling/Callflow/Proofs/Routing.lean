import Callflow.Routing
import Callflow.Proofs.IdTable

/-!
What routing does to edges: which of them it drops, between which nodes it draws the others, and
under which identifiers.
-/

namespace Callflow.Routing

open Identifier

variable {ctx : Context} {ids ids' : IdTable} {e : Chart.Edge} {es : List Chart.Edge}
  {edge : Pathway.Edge}

def ends? (ctx : Context) (e : Chart.Edge) : Option (String × String) :=
  if e.target ∉ ctx.outputIds then none
  else if (ctx.conditions.lookup e.source).isSome then
    ctx.startId.map fun startId => (startId, e.target)
  else if e.source ∈ ctx.outputIds then some (e.source, e.target)
  else none

/-- Everything that can become of an edge that is drawn. -/
theorem route?_eq_some (h : route? ctx ids e = some (edge, ids')) :
    e.target ∈ ctx.outputIds ∧
      ((∃ condition startId, ctx.conditions.lookup e.source = some condition ∧
          ctx.startId = some startId ∧ edge = (reroot ctx condition startId ids e).1 ∧
          ids' = (reroot ctx condition startId ids e).2) ∨
        (ctx.conditions.lookup e.source = none ∧ e.source ∈ ctx.outputIds ∧ edge = keep ctx e ∧
          ids' = ids)) := by
  by_cases ht : e.target ∈ ctx.outputIds
  · refine ⟨ht, ?_⟩
    simp only [route?, ht, not_true_eq_false, if_false] at h
    cases hc : ctx.conditions.lookup e.source with
    | some condition =>
      rw [hc] at h
      obtain ⟨startId, hs, hr⟩ := Option.map_eq_some_iff.mp h
      exact .inl ⟨condition, startId, rfl, hs, by rw [hr], by rw [hr]⟩
    | none =>
      rw [hc] at h
      by_cases hs : e.source ∈ ctx.outputIds
      · simp only [hs, if_true, Option.some.injEq, Prod.mk.injEq] at h
        exact .inr ⟨rfl, hs, h.1.symm, h.2.symm⟩
      · simp [hs] at h
  · simp [route?, ht] at h

theorem ends?_of_some (h : route? ctx ids e = some (edge, ids')) :
    ends? ctx e = some (edge.source, edge.target) := by
  obtain ⟨ht, ⟨condition, startId, hc, hs, rfl, _⟩ | ⟨hc, hs, rfl, _⟩⟩ := route?_eq_some h
  · simp [ends?, ht, hc, hs, reroot, Pathway.Edge.labelled]
  · simp [ends?, ht, hc, hs, keep, Pathway.Edge.labelled]

theorem ends?_of_none (h : route? ctx ids e = none) : ends? ctx e = none := by
  by_cases ht : e.target ∈ ctx.outputIds
  · simp only [route?, ht, not_true_eq_false, if_false] at h
    cases hc : ctx.conditions.lookup e.source with
    | some condition =>
      rw [hc] at h
      simp [ends?, hc, Option.map_eq_none_iff.mp h]
    | none =>
      rw [hc] at h
      by_cases hs : e.source ∈ ctx.outputIds
      · simp [hs] at h
      · simp [ends?, hc, hs]
  · simp [ends?, ht]

theorem route_cons_of_some (h : route? ctx ids e = some (edge, ids')) :
    route ctx ids (e :: es) =
      { route ctx ids' es with edges := edge :: (route ctx ids' es).edges } := by
  simp [route, h]

theorem route_cons_of_none (h : route? ctx ids e = none) :
    route ctx ids (e :: es) =
      { route ctx ids es with dropped := e.id :: (route ctx ids es).dropped } := by
  simp [route, h]

theorem route_ends (ctx : Context) (ids : IdTable) (es : List Chart.Edge) :
    (route ctx ids es).edges.map (fun o => (o.source, o.target)) = es.filterMap (ends? ctx) := by
  induction es generalizing ids with
  | nil => rfl
  | cons e es ih =>
    cases h : route? ctx ids e with
    | none => rw [route_cons_of_none h, List.filterMap_cons_none (ends?_of_none h), ih]
    | some r =>
      obtain ⟨edge, ids'⟩ := r
      rw [route_cons_of_some h, List.filterMap_cons_some (ends?_of_some h), List.map_cons, ih]

theorem route_dropped (ctx : Context) (ids : IdTable) (es : List Chart.Edge) :
    (route ctx ids es).dropped = (es.filter fun e => (ends? ctx e).isNone).map (·.id) := by
  induction es generalizing ids with
  | nil => rfl
  | cons e es ih =>
    cases h : route? ctx ids e with
    | none =>
      rw [route_cons_of_none h, List.filter_cons_of_pos (by simp [ends?_of_none h]),
        List.map_cons, ih]
    | some r =>
      obtain ⟨edge, ids'⟩ := r
      rw [route_cons_of_some h, List.filter_cons_of_neg (by simp [ends?_of_some h]), ih]

theorem exists_of_mem_route {o : Pathway.Edge} (h : o ∈ (route ctx ids es).edges) :
    ∃ e ∈ es, e.target ∈ ctx.outputIds ∧ o.target = e.target ∧ o.targetHandle = e.targetHandle ∧
      ((ctx.startId = some o.source ∧ o.sourceHandle = none) ∨
        (e.source ∈ ctx.outputIds ∧ o.source = e.source ∧ o.sourceHandle = e.sourceHandle)) := by
  induction es generalizing ids with
  | nil => simp [route] at h
  | cons e es ih =>
    cases hr : route? ctx ids e with
    | none =>
      rw [route_cons_of_none hr] at h
      obtain ⟨e', he', hrest⟩ := ih h
      exact ⟨e', List.mem_cons_of_mem e he', hrest⟩
    | some r =>
      obtain ⟨edge, ids'⟩ := r
      rw [route_cons_of_some hr] at h
      rcases List.mem_cons.mp h with rfl | h
      · obtain ⟨ht, ⟨condition, startId, _, hs, rfl, _⟩ | ⟨_, hs, rfl, _⟩⟩ := route?_eq_some hr
        · exact ⟨e, List.mem_cons_self, ht, rfl, rfl, .inl ⟨hs, rfl⟩⟩
        · exact ⟨e, List.mem_cons_self, ht, rfl, rfl, .inr ⟨hs, rfl, rfl⟩⟩
      · obtain ⟨e', he', hrest⟩ := ih h
        exact ⟨e', List.mem_cons_of_mem e he', hrest⟩

/-- What holds of the identifiers after edges `es` that were routed from the table `ids`. -/
structure Named (ids : IdTable) (es : List Chart.Edge) (r : Routed) : Prop where
  nodup : (r.edges.map (·.id)).Nodup
  taken : ∀ o ∈ r.edges, o.id ∈ r.ids.taken
  kept : ∀ id ∈ ids.taken, id ∈ r.ids.taken
  fresh : ∀ o ∈ r.edges, o.id ∈ es.map (·.id) ∨ o.id ∉ ids.taken
  proper : ∀ id ∈ r.ids.taken, Proper id

theorem route?_id (h : route? ctx ids e = some (edge, ids')) :
    (edge.id = e.id ∧ ids' = ids) ∨
      ∃ text, text ≠ "" ∧ edge.id = (ids.reserve text).1 ∧ ids' = (ids.reserve text).2 := by
  obtain ⟨_, ⟨condition, startId, _, _, rfl, rfl⟩ | ⟨_, _, rfl, rfl⟩⟩ := route?_eq_some h
  · exact .inr ⟨_, IdTable.joined_ne_empty _ _, rfl, rfl⟩
  · exact .inl ⟨rfl, rfl⟩

theorem Named.cons {r : Routed} (h : Named ids' es r) (hkept : ∀ id ∈ ids.taken, id ∈ ids'.taken)
    (htaken : edge.id ∈ ids'.taken) (hnew : edge.id ∉ es.map (·.id))
    (hfresh : edge.id = e.id ∨ edge.id ∉ ids.taken) :
    Named ids (e :: es) { r with edges := edge :: r.edges } where
  nodup := by
    rw [List.map_cons, List.nodup_cons]
    refine ⟨?_, h.nodup⟩
    intro hmem
    obtain ⟨o, ho, hid⟩ := List.mem_map.mp hmem
    have hid' : o.id = edge.id := hid
    rcases h.fresh o ho with hold | hfree
    · exact hnew (hid' ▸ hold)
    · exact hfree (hid' ▸ htaken)
  taken o ho := by
    rcases List.mem_cons.mp ho with rfl | ho
    · exact h.kept _ htaken
    · exact h.taken o ho
  kept id hid := h.kept id (hkept id hid)
  fresh o ho := by
    rcases List.mem_cons.mp ho with rfl | ho
    · exact hfresh.imp_left fun hid => by simp [hid]
    · rcases h.fresh o ho with hold | hfree
      · exact .inl (List.mem_cons_of_mem _ hold)
      · exact .inr fun hmem => hfree (hkept _ hmem)
  proper := h.proper

theorem route_named (hnodup : (es.map (·.id)).Nodup) (htaken : ∀ e ∈ es, e.id ∈ ids.taken)
    (hproper : ∀ id ∈ ids.taken, Proper id) : Named ids es (route ctx ids es) := by
  induction es generalizing ids with
  | nil =>
    exact ⟨by simp [route], by simp [route], fun _ h => h, by simp [route], hproper⟩
  | cons e es ih =>
    obtain ⟨hnot, hnodup'⟩ := List.nodup_cons.mp hnodup
    have htaken' : ∀ d ∈ es, d.id ∈ ids.taken :=
      fun d hd => htaken d (List.mem_cons_of_mem e hd)
    cases hr : route? ctx ids e with
    | none =>
      rw [route_cons_of_none hr]
      have h := ih hnodup' htaken' hproper
      exact ⟨h.nodup, h.taken, h.kept,
        fun o ho => (h.fresh o ho).imp_left (List.mem_cons_of_mem _), h.proper⟩
    | some r =>
      obtain ⟨edge, ids'⟩ := r
      rw [route_cons_of_some hr]
      -- Its own identifier is none of those behind it; a reserved one was free, so it is none of
      -- theirs either, and they stay apart from it because it is taken from now on.
      rcases route?_id hr with ⟨hid, rfl⟩ | ⟨text, hne, hid, rfl⟩
      · have he : edge.id ∈ ids'.taken := hid ▸ htaken e List.mem_cons_self
        exact (ih hnodup' htaken' hproper).cons (fun _ h => h) he (hid ▸ hnot) (.inl hid)
      · have hfree : edge.id ∉ ids.taken := hid ▸ IdTable.reserve_not_mem_taken ids text
        have hkept : ∀ id ∈ ids.taken, id ∈ (ids.reserve text).2.taken :=
          fun _ h => List.mem_cons_of_mem _ h
        have hproper' : ∀ id ∈ (ids.reserve text).2.taken, Proper id := by
          intro id hmem
          rw [IdTable.reserve_taken] at hmem
          rcases List.mem_cons.mp hmem with rfl | hmem
          · exact IdTable.proper_reserve ids hne
          · exact hproper id hmem
        refine (ih hnodup' (fun d hd => hkept _ (htaken' d hd)) hproper').cons hkept
          (by simp [hid]) ?_ (.inr hfree)
        intro hmem
        obtain ⟨d, hd, hdid⟩ := List.mem_map.mp hmem
        have hdid' : d.id = edge.id := hdid
        exact hfree (hdid' ▸ htaken' d hd)

end Callflow.Routing
