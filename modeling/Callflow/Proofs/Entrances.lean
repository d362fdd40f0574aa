import Callflow.Document
import Callflow.Proofs.UsablePart
import Callflow.Proofs.Validation

/-!
The two ways into the compiler. The check of a document that was written from the typed form keeps
what is of use in the chart it shows and nothing else, so the chart compiles the same either way.
-/

namespace Callflow

namespace Editor

open Json Value

variable {known seen : List String} {index : Nat}

theorem nodeType_checkTag (n : Node) :
    Node.nodeType { n with type := some (checkTag n.id n.type).1 } = n.nodeType := by
  have hfallback : NodeType.ofTag? fallbackTag = some .question := by decide
  cases htype : n.type with
  | none =>
    simp only [Node.nodeType, checkTag, htype, Option.bind_some, Option.bind_none, hfallback,
      Option.getD_some, Option.getD_none]
  | some tag =>
    cases htag : NodeType.ofTag? tag <;>
      simp [Node.nodeType, checkTag, htype, htag, hfallback]

theorem toChart_checkTag (n : Node) :
    Node.toChart { n with type := some (checkTag n.id n.type).1 } = n.toChart := by
  rw [Node.toChart, nodeType_checkTag]
  rfl

/-- The identifiers that a check has seen are those of the nodes before. -/
def IsSeen (seen : List String) (before : List Chart.Node) : Prop :=
  ∀ key, key ≠ "" → (key ∈ seen ↔ ∃ m ∈ before, m.id = key)

theorem IsSeen.isUsable_iff {before : List Chart.Node} (h : IsSeen seen before) (n : Chart.Node) :
    n.isUsable before = true ↔ n.id ≠ "" ∧ n.id ∉ seen := by
  rw [Chart.isUsable_iff]
  refine and_congr_right fun hne => ?_
  rw [h n.id hne]
  simp only [not_exists, not_and]

theorem IsSeen.append_of_unusable {before : List Chart.Node} (h : IsSeen seen before)
    {n : Chart.Node} (hn : ¬ n.isUsable before = true) : IsSeen seen (before ++ [n]) := by
  intro key hkey
  rw [h key hkey]
  constructor
  · rintro ⟨m, hm, heq⟩
    exact ⟨m, List.mem_append_left _ hm, heq⟩
  · rintro ⟨m, hm, rfl⟩
    rcases List.mem_append.mp hm with hm | hm
    · exact ⟨m, hm, rfl⟩
    · obtain rfl := List.mem_singleton.mp hm
      by_contra hnone
      exact hn ((h.isUsable_iff m).mpr ⟨hkey, fun hmem => hnone ((h m.id hkey).mp hmem)⟩)

theorem IsSeen.cons {before : List Chart.Node} (h : IsSeen seen before) (n : Chart.Node) :
    IsSeen (n.id :: seen) (before ++ [n]) := by
  intro key hkey
  simp only [List.mem_cons, List.mem_append, List.not_mem_nil, or_false, h key hkey]
  constructor
  · rintro (rfl | ⟨m, hm, heq⟩)
    · exact ⟨n, .inr rfl, rfl⟩
    · exact ⟨m, .inl hm, heq⟩
  · rintro ⟨m, hm | rfl, rfl⟩
    · exact .inr ⟨m, hm, rfl⟩
    · exact .inl rfl

theorem toChart_checkNodes (seen : List String) (index : Nat) {before : List Chart.Node}
    {ns : List Node} (hseen : IsSeen seen before) (hns : ∀ n ∈ ns, n.data.IsWritable) :
    (checkNodes seen index (ns.map fun n => n.encode.ordered)).1.map Node.toChart =
      Chart.usableAfter before (ns.map Node.toChart) := by
  induction ns generalizing seen index before with
  | nil => rfl
  | cons n rest ih =>
    have hcheck := checkNode_written seen index (hns n List.mem_cons_self)
    have hrest : ∀ m ∈ rest, m.data.IsWritable := fun m hm => hns m (List.mem_cons_of_mem _ hm)
    have hiff : n.toChart.isUsable before = true ↔ n.id ≠ "" ∧ n.id ∉ seen :=
      hseen.isUsable_iff n.toChart
    rw [List.map_cons, List.map_cons]
    by_cases husable : n.toChart.isUsable before = true
    · obtain ⟨hne, hnew⟩ := hiff.mp husable
      rw [if_neg hne, if_neg hnew] at hcheck
      rw [checkNodes_cons_of_some hcheck, Chart.usableAfter_cons_of_usable husable, List.map_cons,
        toChart_checkTag]
      exact congrArg (n.toChart :: ·) (ih (n.id :: seen) (index + 1) (hseen.cons n.toChart) hrest)
    · have hdropped : ∃ issue, checkNode seen index n.encode.ordered = (none, [issue]) := by
        by_cases hne : n.id = ""
        · exact ⟨_, hcheck.trans (if_pos hne)⟩
        · rw [if_neg hne] at hcheck
          have hold : n.id ∈ seen := not_not.mp fun hnew => husable (hiff.mpr ⟨hne, hnew⟩)
          exact ⟨_, hcheck.trans (if_pos hold)⟩
      obtain ⟨issue, hissue⟩ := hdropped
      rw [checkNodes_cons_of_none hissue, Chart.usableAfter_cons_of_unusable husable]
      exact ih seen (index + 1) (hseen.append_of_unusable husable) hrest

theorem toChart_checkEdges (known : List String) (index : Nat) {es : List Edge} (h : ∀ e ∈ es, e.id ≠ "") :
    (checkEdges known index (es.map fun e => e.encode.ordered)).1.map Edge.toChart =
      (es.map Edge.toChart).filter fun e => decide (e.source ∈ known ∧ e.target ∈ known) := by
  induction es generalizing index with
  | nil => rfl
  | cons e rest ih =>
    have hcheck := checkEdge_written known index e
    have hmore := ih (index + 1) fun f hf => h f (List.mem_cons_of_mem _ hf)
    rw [if_neg (h e List.mem_cons_self)] at hcheck
    rw [List.map_cons, List.map_cons, checkEdges, hcheck, List.filter_cons]
    by_cases hends : e.source ∈ known ∧ e.target ∈ known
    · have hends' : decide (e.toChart.source ∈ known ∧ e.toChart.target ∈ known) = true :=
        decide_eq_true hends
      rw [if_pos hends, hends', if_pos rfl]
      exact congrArg (e.toChart :: ·) hmore
    · have hends' : decide (e.toChart.source ∈ known ∧ e.toChart.target ∈ known) = false :=
        decide_eq_false hends
      rw [if_neg hends, hends', if_neg Bool.false_ne_true]
      exact hmore

/-- What the check keeps of a document that was written shows the part of its chart that is of
use. -/
theorem toChart_validate_toValue {d : Document} (hnodes : ∀ n ∈ d.nodes, n.data.IsWritable)
    (hedges : ∀ e ∈ d.edges, e.id ≠ "") :
    (validate d.toValue).hasNodeList = true ∧
      (validate d.toValue).toDocument.toChart = d.toChart.usablePart := by
  obtain ⟨nodeIssues, edgeIssues, nodes, edges, hn, he, hvalidate⟩ := validate_toValue d
  have husable : nodes.map Node.toChart = d.toChart.usableNodes := by
    have hseen : IsSeen [] [] := fun key _ => by simp
    have hkept := toChart_checkNodes [] 0 hseen hnodes
    rwa [hn] at hkept
  have hids : nodes.map (·.id) = d.toChart.usableNodes.map (·.id) := by
    rw [← husable, List.map_map]
    rfl
  have husableEdges : edges.map Edge.toChart = d.toChart.usableEdges := by
    have hkept := toChart_checkEdges (nodes.map (·.id)) 0 hedges
    rw [he] at hkept
    rw [hkept, hids]
    refine List.filter_congr ?_
    intro e hmem
    obtain ⟨f, hf, rfl⟩ := List.mem_map.mp hmem
    have hid : f.toChart.id ≠ "" := hedges f hf
    rw [Bool.eq_iff_iff, decide_eq_true_iff, Chart.isUsableEdge_iff, Chart.isNode_iff,
      Chart.isNode_iff]
    exact ⟨fun h => ⟨hid, h⟩, fun h => h.2⟩
  rw [hvalidate]
  refine ⟨rfl, ?_⟩
  rw [Report.toDocument, Document.toChart, husable, husableEdges]
  rfl

end Editor

open Editor Text

variable {s : Settings} {m : Metadata}

/-- A document compiles the same from its typed form as from the value that is written of it. -/
theorem compileDocument_toValue {d : Json.Value} {u : Document} (hd : d.IsOrdered)
    (hread : Document.decode d = .ok u) (hedges : ∀ e ∈ u.edges, e.id ≠ "")
    (hname : (nonBlank? m.name).isSome = true)
    (hdescription : (nonBlank? m.description).isSome = true) (s : Settings) (now later : Int) :
    ∃ compiled, compileDocument s m later u.toValue = .ok compiled ∧
      compiled.Agree (compile s m now u.toChart) := by
  obtain ⟨hlist, hchart⟩ :=
    toChart_validate_toValue (Document.isWritable_of_decode hread hd) hedges
  have hagree := agree_usablePart (s := s) (c := u.toChart) hname hdescription now later
  rw [← hchart] at hagree
  refine ⟨_, by rw [compileDocument, if_pos hlist], ?_⟩
  exact hagree.withIssues _

/-- A document with a node without an identifier, a repeated one, an unknown type and an edge to
nowhere. -/
def scattered : Json.Value := .object [
  ("edges", .array [
    .object [("data", .object []), ("id", .string "1"), ("source", .string "a"),
      ("target", .string "b")],
    .object [("id", .string "2"), ("source", .string "b"), ("sourceHandle", .string "true"),
      ("target", .string "w")],
    .object [("id", .string "3"), ("source", .string "a"), ("target", .string "c")]]),
  ("name", .null),
  ("nodes", .array [
    .object [("id", .string ""), ("type", .string "greeting")],
    .object [("data", .object [("text", .string "Hello")]), ("id", .string "a"),
      ("type", .string "gate")],
    .object [("data", .object [("condition", .string "x >")]), ("id", .string "b"),
      ("type", .string "condition")],
    .object [("id", .string "a"), ("type", .string "greeting")],
    .object [("data", .object [("body", .object [("k", .null)]), ("url", .string "u")]),
      ("id", .string "w"), ("type", .string "webhook")]])]

theorem compileDocument_toValue_scattered :
    ∃ u, Document.decode scattered = .ok u ∧ (validate u.toValue).isValid = false ∧
      ∃ compiled, compileDocument {} ⟨some "Intake", some "By phone"⟩ 86400 u.toValue =
          .ok compiled ∧
        compiled.Agree (compile {} ⟨some "Intake", some "By phone"⟩ 0 u.toChart) :=
  ⟨_, rfl, by decide, compileDocument_toValue (d := scattered) (by decide) rfl (by decide)
    (by decide) (by decide) {} 0 86400⟩

end Callflow
