import Callflow.Compile
import Callflow.Proofs.CleanedChart

/-!
The part of a chart that is of use. Cleaning it gives the same nodes, edges and identifiers as
cleaning the whole chart, so a chart compiles like its part of use.
-/

namespace Callflow

namespace Chart

def usablePart (c : Chart) : Chart := { c with nodes := c.usableNodes, edges := c.usableEdges }

def usableAfter (before ns : List Node) : List Node :=
  ((withEarlier before ns).filter fun (before, n) => n.isUsable before).map (·.2)

theorem usableAfter_cons_of_usable {before rest : List Node} {n : Node}
    (h : n.isUsable before = true) :
    usableAfter before (n :: rest) = n :: usableAfter (before ++ [n]) rest := by
  simp [usableAfter, withEarlier, h]

theorem usableAfter_cons_of_unusable {before rest : List Node} {n : Node}
    (h : ¬ n.isUsable before = true) :
    usableAfter before (n :: rest) = usableAfter (before ++ [n]) rest := by
  simp [usableAfter, withEarlier, h]

namespace Cleaned

variable {g : Cleaned} {n : Node} {e : Edge}

def forgetDropped (g : Cleaned) : Cleaned := { g with droppedNodes := [], droppedEdges := [] }

theorem forgetDropped_addNode_of_unusable (h : n.id = "" ∨ g.nodeIds.contains n.id) :
    (g.addNode n).forgetDropped = g.forgetDropped := by
  rw [addNode_of_unusable h]
  rfl

theorem addNode_forgetDropped (h : ¬ (n.id = "" ∨ g.nodeIds.contains n.id)) :
    g.forgetDropped.addNode n = (g.addNode n).forgetDropped := by
  have h' : ¬ (n.id = "" ∨ g.forgetDropped.nodeIds.contains n.id) := h
  rw [addNode_of_usable h, addNode_of_usable h']
  rfl

theorem foldl_addNode_usable (ns : List Node) :
    (usable ns).foldl addNode {} = (ns.foldl addNode {}).forgetDropped := by
  -- From the end: whether a node is of use hangs on those before it alone.
  induction ns using List.reverseRecOn with
  | nil => rfl
  | append_singleton ns n ih =>
    have hns := afterNodes ns
    rw [usable_append_singleton, List.foldl_append, List.foldl_append, ih]
    by_cases hu : n.isUsable ns = true
    · rw [if_pos hu]
      exact addNode_forgetDropped ((hns.isUsable_iff n).mp hu)
    · have hdrop := not_not.mp (mt (hns.isUsable_iff n).mpr hu)
      rw [if_neg hu]
      exact (forgetDropped_addNode_of_unusable hdrop).symm

theorem addEdge_of_none (h : resolve? g.nodeIds e = none) :
    g.addEdge e = { g with droppedEdges := g.droppedEdges ++ [e.id] } := by
  simp only [addEdge, h]

theorem addEdge_of_some {resolved : Edge} (h : resolve? g.nodeIds e = some resolved) :
    g.addEdge e = { g with
      edges := g.edges ++ [{ resolved with id := (g.edgeIds.reserve e.id).1 }]
      edgeIds := (g.edgeIds.reserve e.id).2 } := by
  simp only [addEdge, h]

theorem foldl_addEdge_filter {p : Edge → Bool} (es : List Edge)
    (h : ∀ e ∈ es, p e = (resolve? g.nodeIds e).isSome) :
    (es.filter p).foldl addEdge g.forgetDropped = (es.foldl addEdge g).forgetDropped := by
  induction es generalizing g with
  | nil => rfl
  | cons e rest ih =>
    have hrest : ∀ f ∈ rest, p f = (resolve? g.nodeIds f).isSome :=
      fun f hf => h f (List.mem_cons_of_mem _ hf)
    rw [List.filter_cons, h e List.mem_cons_self, List.foldl_cons]
    cases hresolve : resolve? g.nodeIds e with
    | none =>
      rw [addEdge_of_none hresolve]
      exact ih (g := { g with droppedEdges := g.droppedEdges ++ [e.id] }) hrest
    | some resolved =>
      have hresolve' : resolve? g.forgetDropped.nodeIds e = some resolved := hresolve
      rw [Option.isSome_some, if_pos rfl, List.foldl_cons, addEdge_of_some hresolve,
        addEdge_of_some hresolve']
      exact ih (g := { g with
        edges := g.edges ++ [{ resolved with id := (g.edgeIds.reserve e.id).1 }]
        edgeIds := (g.edgeIds.reserve e.id).2 }) hrest

end Cleaned

open Cleaned

variable (c : Chart)

theorem isUsableEdge_eq_isSome_resolve? (e : Edge) :
    c.isUsableEdge e = (resolve? (c.nodes.foldl addNode {}).nodeIds e).isSome := by
  have hiff := (afterNodes c.nodes).isUsableEdge_iff (c := c) e
  by_cases hu : c.isUsableEdge e = true
  · obtain ⟨hid, hsource, htarget⟩ := hiff.mp hu
    rw [resolve?_of_usable hid hsource htarget, hu]
    rfl
  · rw [resolve?_of_unusable (mt hiff.mpr hu), eq_false_of_ne_true hu]
    rfl

theorem clean_usablePart : c.usablePart.clean = c.clean.forgetDropped := by
  have hnodes := foldl_addNode_usable c.nodes
  have hedges := foldl_addEdge_filter c.edges fun e _ => c.isUsableEdge_eq_isSome_resolve? e
  rw [← hnodes] at hedges
  exact hedges

end Chart

open Compile Text

/-- Two compilations agree on all but what they left out and what was found amiss before them. -/
structure Compiled.Agree (a b : Compiled) : Prop where
  pathway : a.pathway = b.pathway
  synthesized : a.diagnostics.synthesized = b.diagnostics.synthesized
  unparsedConditions : a.diagnostics.unparsedConditions = b.diagnostics.unparsedConditions
  startRule : a.diagnostics.startRule = b.diagnostics.startRule
  clearedStartFlags : a.diagnostics.clearedStartFlags = b.diagnostics.clearedStartFlags

theorem Compiled.Agree.withIssues {a b : Compiled} (h : a.Agree b) (issues : List String) :
    { a with diagnostics := { a.diagnostics with issues } }.Agree b :=
  ⟨h.pathway, h.synthesized, h.unparsedConditions, h.startRule, h.clearedStartFlags⟩

variable {s : Settings} {m : Metadata} {c : Chart}

theorem nameOf_of_nonBlank (h : (nonBlank? m.name).isSome = true) (now later : Int) :
    nameOf m now c = nameOf m later c := by
  obtain ⟨name, hname⟩ := Option.isSome_iff_exists.mp h
  simp only [nameOf, firstNonBlank?, hname, Option.some_or, Option.getD_some]

theorem descriptionOf_of_nonBlank (h : (nonBlank? m.description).isSome = true) (now later : Int) :
    descriptionOf m now c = descriptionOf m later c := by
  obtain ⟨description, hdescription⟩ := Option.isSome_iff_exists.mp h
  simp only [descriptionOf, firstNonBlank?, hdescription, Option.some_or, Option.getD_some]

/-- A chart compiles like its part of use, at whatever time. -/
theorem agree_usablePart (hname : (nonBlank? m.name).isSome = true)
    (hdescription : (nonBlank? m.description).isSome = true) (now later : Int) :
    (compile s m later c.usablePart).Agree (compile s m now c) := by
  have hname' : nameOf m later c.usablePart = nameOf m now c := nameOf_of_nonBlank hname later now
  have hdescription' : descriptionOf m later c.usablePart = descriptionOf m now c :=
    descriptionOf_of_nonBlank hdescription later now
  unfold compile
  rw [c.clean_usablePart, hname', hdescription']
  exact ⟨rfl, rfl, rfl, rfl, rfl⟩

end Callflow
