import Callflow.Compile

/-!
The start of a call: which node of a chart is chosen, what being the start means for a node of a
pathway, and that a pathway with one start keeps it.
-/

namespace Callflow

namespace Start

/-- A node has all that a start has. -/
structure IsDesignated (n : Pathway.Node) : Prop where
  isStart : n.isStart = true
  name : n.data.name = "Start"
  flags : n.data.model.flags = ⟨some false, some false, some false, some false, some false⟩
  extractVars : n.data.extractVars.isSome = true
  extractSettings : n.data.extractSettings.isSome = true

/-- A node has nothing that only a start has. -/
structure IsPlain (n : Pathway.Node) : Prop where
  isStart : n.isStart = false
  flags : n.data.model.flags = ⟨none, none, none, none, none⟩
  extractVars : n.data.extractVars = none
  extractSettings : n.data.extractSettings = none

theorem isDesignated_designate (asked : List Pathway.Variable) (n : Pathway.Node) :
    IsDesignated (designate asked n) := ⟨rfl, rfl, rfl, rfl, rfl⟩

theorem isPlain_node (s : Settings) (n : Chart.Node) : IsPlain (Assembly.node s n) := by
  obtain ⟨id, kind, label, name, isStart, extractVars⟩ := n
  cases kind <;> exact ⟨rfl, rfl, rfl, rfl⟩

theorem isPlain_greeting (s : Settings) (id : String) : IsPlain (Assembly.greeting s id) :=
  ⟨rfl, rfl, rfl, rfl⟩

theorem isPlain_closing (s : Settings) (id : String) : IsPlain (Assembly.closing s id) :=
  ⟨rfl, rfl, rfl, rfl⟩

theorem clearStarts_of_plain {nodes : List Pathway.Node} (h : ∀ n ∈ nodes, n.isStart = false) :
    clearStarts nodes = (nodes, 0) := by
  induction nodes with
  | nil => rfl
  | cons n nodes ih =>
    have hn := h n List.mem_cons_self
    have hrest := ih fun m hm => h m (List.mem_cons_of_mem n hm)
    simp [clearStarts, hn, hrest]

theorem enforceSingle_of_single {before after : List Pathway.Node} {start : Pathway.Node}
    (hbefore : ∀ n ∈ before, n.isStart = false) (hstart : start.isStart = true)
    (hafter : ∀ n ∈ after, n.isStart = false) :
    enforceSingle (before ++ start :: after) = (before ++ start :: after, 0) := by
  induction before with
  | nil => simp [enforceSingle, hstart, clearStarts_of_plain hafter]
  | cons n before ih =>
    have hn := hbefore n List.mem_cons_self
    have hrest := ih fun m hm => hbefore m (List.mem_cons_of_mem n hm)
    simp [enforceSingle, hn, hrest]

theorem findIdx?_bind_getElem? {α : Type} (p : α → Bool) (as : List α) :
    ((as.findIdx? p).bind fun i => as[i]?) = as.find? p := by
  induction as with
  | nil => rfl
  | cons a as ih =>
    by_cases h : p a = true
    · simp [List.findIdx?_cons, h]
    · simp only [List.findIdx?_cons, h, Bool.false_eq_true, if_false, List.find?_cons, ← ih]
      cases as.findIdx? p <;> simp

theorem findSome?_find? (nodes : List Chart.Node) (rules : List Rule) :
    ((rules.findSome? fun r => (r.find? nodes).map fun i => (i, r)).bind fun (i, r) =>
      nodes[i]?.map fun n => (n.id, r)) =
    rules.findSome? fun r => (nodes.find? r.accepts).map fun n => (n.id, r) := by
  induction rules with
  | nil => rfl
  | cons r rules ih =>
    have hr := findIdx?_bind_getElem? r.accepts nodes
    cases hi : nodes.findIdx? r.accepts with
    | none =>
      rw [hi] at hr
      simp [Rule.find?, hi, ← hr, ← ih]
    | some i =>
      rw [hi] at hr
      obtain ⟨hlt, _⟩ := List.findIdx?_eq_some_iff_getElem.mp hi
      have hn : nodes[i]? = some nodes[i] := List.getElem?_eq_getElem hlt
      simp [Rule.find?, hi, ← hr, hn]

theorem chosen?_eq (nodes : List Chart.Node) :
    Compile.chosen? nodes =
      chartRules.findSome? fun r => (nodes.find? r.accepts).map fun n => (n.id, r) := by
  rw [← findSome?_find?, Compile.chosen?, select?]
  cases chartRules.findSome? fun r => (r.find? nodes).map fun i => (i, r) with
  | none => rfl
  | some p => cases h : nodes[p.1]? <;> simp [h]

theorem chosen?_map_fst (nodes : List Chart.Node) :
    (Compile.chosen? nodes).map (·.1) =
      (((nodes.find? Rule.greeting.accepts).or (nodes.find? Rule.startMarker.accepts)).or
        nodes.head?).map (·.id) := by
  have hfirst : nodes.find? Rule.firstNode.accepts = nodes.head? := by
    cases nodes <;> simp [Rule.accepts]
  rw [chosen?_eq, chartRules]
  simp only [List.findSome?_cons, List.findSome?_nil, hfirst]
  cases nodes.find? Rule.greeting.accepts with
  | some n => rfl
  | none =>
    cases nodes.find? Rule.startMarker.accepts with
    | some n => rfl
    | none => cases nodes.head? <;> rfl

end Start

end Callflow
