import Callflow.Proofs.Compile
import Mathlib.Logic.Relation

/-!
A call can come to the same places in a pathway as in its chart, where conditionals are places too
and any of them may be come to: what was behind a conditional is behind the start.
-/

namespace Callflow

open Relation

def Pathway.Joined (edges : List Pathway.Edge) (a b : String) : Prop :=
  ∃ o ∈ edges, o.source = a ∧ o.target = b

namespace Compile

variable (s : Settings) {c : Chart} {a b v x y : String}

theorem isNode_of_leads (h : c.Leads x y) : c.isNode x = true ∧ c.isNode y = true := by
  obtain ⟨e, he, rfl, rfl⟩ := h
  exact Chart.isNode_of_mem_usableEdges he

theorem isNode_of_transGen (h : TransGen c.Leads x y) : c.isNode y = true := by
  cases h with
  | single h => exact (isNode_of_leads h).2
  | tail _ h => exact (isNode_of_leads h).2

theorem joined_iff :
    Pathway.Joined (routed s c).edges a b ↔
      ∃ x y, c.Leads x y ∧ c.isConditionalNode y = false ∧ a = drawnSource c x ∧ b = c.idOf y := by
  have hends : Pathway.Joined (routed s c).edges a b ↔
      (a, b) ∈ (routed s c).edges.map fun o => (o.source, o.target) := by
    simp [Pathway.Joined]
  rw [hends, routed_ends, List.mem_filterMap]
  constructor
  · rintro ⟨e, he, hdrawn⟩
    cases hu : c.isUsableEdge e with
    | false =>
      rw [drawnEnds?_of_unusable hu] at hdrawn
      exact absurd hdrawn (by simp)
    | true =>
      rw [drawnEnds?_of_usable hu] at hdrawn
      cases ht : c.isConditionalNode e.target with
      | true => simp [ht] at hdrawn
      | false =>
        have hab : (drawnSource c e.source, c.idOf e.target) = (a, b) := by
          simpa only [ht, Bool.false_eq_true, if_false, Option.some.injEq] using hdrawn
        have hleads : c.Leads e.source e.target := ⟨e, List.mem_filter.mpr ⟨he, hu⟩, rfl, rfl⟩
        exact ⟨e.source, e.target, hleads, ht, (congrArg Prod.fst hab).symm,
          (congrArg Prod.snd hab).symm⟩
  · rintro ⟨x, y, ⟨e, he, rfl, rfl⟩, ht, rfl, rfl⟩
    obtain ⟨he', hu⟩ := List.mem_filter.mp he
    refine ⟨e, he', ?_⟩
    rw [drawnEnds?_of_usable hu]
    simp [ht]

theorem transGen_joined (hx : drawnSource c x = startId c) (h : TransGen c.Leads x y)
    (hy : c.isConditionalNode y = false) :
    TransGen (Pathway.Joined (routed s c).edges) (startId c) (c.idOf y) := by
  induction h with
  | single h => exact .single ((joined_iff s).mpr ⟨x, _, h, hy, hx.symm, rfl⟩)
  -- Behind a conditional the way begins anew at the start, and what came before is not needed.
  | @tail y z _ h ih =>
    cases hcond : c.isConditionalNode y with
    | true =>
      have hstart : drawnSource c y = startId c := by simp [drawnSource, hcond]
      exact .single ((joined_iff s).mpr ⟨y, z, h, hy, hstart.symm, rfl⟩)
    | false =>
      have hsource : drawnSource c y = c.idOf y := by simp [drawnSource, hcond]
      exact (ih hcond).tail ((joined_iff s).mpr ⟨y, z, h, hy, hsource.symm, rfl⟩)

theorem exists_transGen_leads
    (h : TransGen (Pathway.Joined (routed s c).edges) (startId c) v) :
    ∃ x y, drawnSource c x = startId c ∧ TransGen c.Leads x y ∧
      c.isConditionalNode y = false ∧ c.idOf y = v := by
  induction h with
  | single h =>
    obtain ⟨x, y, hxy, hy, hx, rfl⟩ := (joined_iff s).mp h
    exact ⟨x, y, hx.symm, .single hxy, hy, rfl⟩
  | tail _ h ih =>
    obtain ⟨x', y', hxy', hy', hsource, rfl⟩ := (joined_iff s).mp h
    cases hcond : c.isConditionalNode x' with
    | true =>
      -- The last step leaves the start itself, so the way up to it is not needed.
      exact ⟨x', y', by simp [drawnSource, hcond], .single hxy', hy', rfl⟩
    | false =>
      obtain ⟨x, y, hx, hxy, hy, hid⟩ := ih
      have hid' : c.idOf y = c.idOf x' := by simpa [drawnSource, hcond] using hid.trans hsource
      have hsame : y = x' :=
        Chart.idOf_inj (isNode_of_transGen hxy) (isNode_of_leads hxy').1 hid'
      subst hsame
      exact ⟨x, y', hx, hxy.tail hxy', hy', rfl⟩

theorem drawnSource_eq_startId_iff {n : Chart.Node} (hn : n ∈ c.usableNodes) :
    drawnSource c n.id = startId c ↔ c.idOf n.id = startId c ∨ n.isConditional = true := by
  rw [drawnSource, Chart.isConditionalNode_id hn]
  cases n.isConditional <;> simp

/-- Away from the start, the nodes that can be come to are the images of those that speak and can be
come to in the chart. -/
theorem reflTransGen_joined_iff (hv : v ≠ startId c) :
    ReflTransGen (Pathway.Joined (routed s c).edges) (startId c) v ↔
      ∃ n ∈ c.usableNodes, n.isConditional = false ∧ c.idOf n.id = v ∧
        ∃ a ∈ c.usableNodes, (c.idOf a.id = startId c ∨ a.isConditional = true) ∧
          TransGen c.Leads a.id n.id := by
  constructor
  · intro h
    rcases reflTransGen_iff_eq_or_transGen.mp h with heq | h
    · exact absurd heq hv
    · obtain ⟨x, y, hx, hxy, hy, hid⟩ := exists_transGen_leads s h
      obtain ⟨z, hxz, _⟩ := TransGen.head'_iff.mp hxy
      obtain ⟨a, ha, rfl⟩ := List.mem_map.mp (Chart.isNode_iff.mp (isNode_of_leads hxz).1)
      obtain ⟨n, hn, rfl⟩ := List.mem_map.mp (Chart.isNode_iff.mp (isNode_of_transGen hxy))
      rw [Chart.isConditionalNode_id hn] at hy
      exact ⟨n, hn, hy, hid, a, ha, (drawnSource_eq_startId_iff ha).mp hx, hxy⟩
  · rintro ⟨n, hn, hcond, rfl, a, ha, hstart, h⟩
    rw [← Chart.isConditionalNode_id hn] at hcond
    exact (transGen_joined s ((drawnSource_eq_startId_iff ha).mpr hstart) h hcond).to_reflTransGen

end Compile

open Compile

/-- The connection left aside, a node other than the start can be come to from the start if and only
if it is the image of a node that speaks and that the chart leads to, in one step at least, from the
start or from a conditional. So no node is cut off that the chart leads to from the start. -/
theorem compile_reachable_iff (s : Settings) (m : Metadata) (now : Int) (c : Chart) :
    (compile s m now c).pathway.edges = (routed s c).edges ++ (connection? s c).toList ∧
    ∃ start, (compile s m now c).pathway.outputNodes.filter (·.isStart) = [start] ∧
      (∀ v ∈ (compile s m now c).pathway.outputNodes, v ≠ start →
        (ReflTransGen (Pathway.Joined (routed s c).edges) start.id v.id ↔
          ∃ n ∈ c.usableNodes, n.isConditional = false ∧ c.idOf n.id = v.id ∧
            ∃ a ∈ c.usableNodes, (c.idOf a.id = start.id ∨ a.isConditional = true) ∧
              TransGen c.Leads a.id n.id)) ∧
      ∀ a ∈ c.usableNodes, c.idOf a.id = start.id →
        ∀ n ∈ c.usableNodes, n.isConditional = false → TransGen c.Leads a.id n.id →
          ∃ v ∈ (compile s m now c).pathway.outputNodes, v.id = c.idOf n.id ∧
            ReflTransGen (Pathway.Joined (routed s c).edges) start.id v.id := by
  refine ⟨compile_edges s m now c, ?_⟩
  obtain ⟨start, hfilter, hid⟩ := filter_isStart_cast s c
  rw [compile_outputNodes]
  refine ⟨start, hfilter, ?_, ?_⟩
  · intro v hv hne
    have hstart : start ∈ (cast s c).nodes := by
      refine List.mem_of_mem_filter (p := (·.isStart)) ?_
      rw [hfilter]
      exact List.mem_singleton_self start
    have hne' : v.id ≠ start.id := fun he =>
      hne (List.inj_on_of_nodup_map (cast_ids_nodup s c) hv hstart he)
    rw [hid] at hne' ⊢
    exact reflTransGen_joined_iff s hne'
  · intro a ha hstart n hn hcond h
    rw [← Chart.isConditionalNode_id hn] at hcond
    obtain ⟨v, hv, hvid⟩ :=
      List.mem_map.mp ((idOf_mem_outputIds s (Chart.isNode_id hn)).mpr hcond)
    refine ⟨v, hv, hvid, ?_⟩
    rw [hid] at hstart ⊢
    rw [hvid]
    have hsource := (drawnSource_eq_startId_iff ha).mpr (.inl hstart)
    exact (transGen_joined s hsource h hcond).to_reflTransGen

end Callflow
