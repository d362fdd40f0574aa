import Callflow.Proofs.Compile

/-!
Every pathway that is compiled has one start. It is the node of the chart that is to start the call,
or the greeting that was added if nothing in the chart speaks.
-/

namespace Callflow

namespace Compile

variable {s : Settings} {c : Chart}

theorem eq_of_mem_staffed {a b : Pathway.Node} (ha : a ∈ (staffed s c).nodes)
    (hb : b ∈ (staffed s c).nodes) (h : a.id = b.id) : a = b :=
  List.inj_on_of_nodup_map (staffed_ids_nodup s c) ha hb h

theorem eq_node_of_startNode? {n : Chart.Node} {start : Pathway.Node} (hn : c.startNode? = some n)
    (hmem : start ∈ (staffed s c).nodes) (hid : start.id = startId c) :
    start = Assembly.node s (n.tidy c.clean.nodeIds) := by
  have hspeaks : n ∈ c.speakingNodes := mem_of_startNode? hn
  have himage : Assembly.node s (n.tidy c.clean.nodeIds) ∈ middle s c := by
    rw [middle, spoken_eq]
    exact List.mem_map_of_mem (List.mem_map_of_mem hspeaks)
  refine eq_of_mem_staffed hmem (mem_staffed.mpr (.inr (.inl himage))) ?_
  rw [hid, startId, hn]
  rfl

theorem eq_greeting_of_startNode? {start : Pathway.Node} (hn : c.startNode? = none)
    (hmem : start ∈ (staffed s c).nodes) (hid : start.id = startId c) :
    start = Assembly.greeting s (greetingId c) := by
  have hgreeting : Assembly.greeting s (greetingId c) ∈ (staffed s c).nodes := by
    rw [staffed_nodes_of_startNode? hn]
    exact List.mem_cons_self
  refine eq_of_mem_staffed hmem hgreeting ?_
  rw [hid, startId, hn]
  rfl

theorem greetingId_mem_synthesized (s : Settings) (m : Metadata) (now : Int)
    (hn : c.startNode? = none) : greetingId c ∈ (compile s m now c).diagnostics.synthesized := by
  have hmiddle : middle s c = [] := by
    rw [middle, spoken_eq, speakingNodes_of_startNode? hn]
    rfl
  rw [compile_synthesized, front, hmiddle]
  exact List.mem_cons_self

theorem startRule_isSome (s : Settings) (m : Metadata) (now : Int) (c : Chart) :
    (compile s m now c).diagnostics.startRule.isSome = true := by
  rw [compile_startRule]
  rfl

end Compile

open Compile

/-- One node has all that a start has, the others have nothing of it, and it is the right one. -/
theorem compile_single_start (s : Settings) (m : Metadata) (now : Int) (c : Chart) :
    (compile s m now c).diagnostics.startRule.isSome = true ∧
    (compile s m now c).diagnostics.clearedStartFlags = 0 ∧
    ∃ before start after,
      (compile s m now c).pathway.outputNodes = before ++ start :: after ∧
      Start.IsDesignated start ∧ (∀ n ∈ before ++ after, Start.IsPlain n) ∧
      match c.startNode? with
      | some n => start = Start.designate (asked s c) (Assembly.node s (n.tidy c.clean.nodeIds))
      | none => c.speakingNodes = [] ∧
          start = Start.designate (asked s c) (Assembly.greeting s (greetingId c)) ∧
          start.id ∈ (compile s m now c).diagnostics.synthesized := by
  refine ⟨startRule_isSome s m now c, compile_clearedStartFlags s m now c, ?_⟩
  obtain ⟨before, start, after, hstaffed, hid, hcast⟩ := exists_cast_nodes_eq s c
  have hmem : start ∈ (staffed s c).nodes := by
    rw [hstaffed]
    exact List.mem_append_right _ List.mem_cons_self
  refine ⟨before, Start.designate (asked s c) start, after,
    (compile_outputNodes s m now c).trans hcast, Start.isDesignated_designate _ _, ?_, ?_⟩
  · intro n hn
    refine isPlain_of_mem_staffed (s := s) (c := c) ?_
    rw [hstaffed]
    rcases List.mem_append.mp hn with hn | hn
    · exact List.mem_append_left _ hn
    · exact List.mem_append_right _ (List.mem_cons_of_mem _ hn)
  · cases hn : c.startNode? with
    | some n => exact congrArg _ (eq_node_of_startNode? hn hmem hid)
    | none =>
      have hg := eq_greeting_of_startNode? hn hmem hid
      refine ⟨speakingNodes_of_startNode? hn, congrArg _ hg, ?_⟩
      rw [hg]
      exact greetingId_mem_synthesized s m now hn

end Callflow
