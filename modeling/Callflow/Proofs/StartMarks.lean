import Callflow.Proofs.UsablePart
import Callflow.Proofs.Drawing

/-!
What the editor says of the start. A compilation reads no start mark, and of the variables that
nodes list only those of the node that becomes the start. So charts that differ in nothing else
compile the same.
-/

namespace Callflow

namespace Chart

def Node.unmarked (n : Node) : Node := { n with isStart := false, extractVars := [] }

def unmarked (c : Chart) : Chart := { c with nodes := c.nodes.map Node.unmarked }

/-- The node of a chart that goes by an identifier in its pathway. -/
def origin? (c : Chart) (id : String) : Option Node :=
  c.usableNodes.find? (c.idOf ·.id = id)

/-- Charts that differ at most in start marks, and in the variables listed by nodes other than the
one that goes by `id`. -/
structure SameButMarks (id : String) (c d : Chart) : Prop where
  unmarked : c.unmarked = d.unmarked
  extractVars : (c.origin? id).map (·.extractVars) = (d.origin? id).map (·.extractVars)

namespace Cleaned

def unmarked (g : Cleaned) : Cleaned := { g with nodes := g.nodes.map Node.unmarked }

theorem addNode_unmarked (g : Cleaned) (n : Node) :
    g.unmarked.addNode n.unmarked = (g.addNode n).unmarked := by
  by_cases h : n.id = "" ∨ g.nodeIds.contains n.id
  · have h' : n.unmarked.id = "" ∨ g.unmarked.nodeIds.contains n.unmarked.id := h
    rw [addNode_of_unusable h, addNode_of_unusable h']
    rfl
  · have h' : ¬ (n.unmarked.id = "" ∨ g.unmarked.nodeIds.contains n.unmarked.id) := h
    rw [addNode_of_usable h, addNode_of_usable h', unmarked, unmarked, List.map_append]
    rfl

theorem addEdge_unmarked (g : Cleaned) (e : Edge) :
    g.unmarked.addEdge e = (g.addEdge e).unmarked := by
  have hids : g.unmarked.nodeIds = g.nodeIds := rfl
  cases h : resolve? g.nodeIds e with
  | none =>
    rw [addEdge_of_none h, addEdge_of_none (hids ▸ h)]
    rfl
  | some resolved =>
    rw [addEdge_of_some h, addEdge_of_some (hids ▸ h)]
    rfl

end Cleaned

variable (c : Chart)

theorem clean_unmarked : c.unmarked.clean = c.clean.unmarked := by
  have hnodes : c.unmarked.nodes.foldl Cleaned.addNode {} =
      (c.nodes.foldl Cleaned.addNode {}).unmarked := by
    rw [unmarked, List.foldl_map]
    change c.nodes.foldl (fun g n => g.addNode n.unmarked) (Cleaned.unmarked {}) = _
    exact List.foldl_hom Cleaned.unmarked Cleaned.addNode_unmarked
  rw [clean, hnodes]
  exact List.foldl_hom Cleaned.unmarked Cleaned.addEdge_unmarked

theorem map_extractVars_origin? (id : String) :
    (c.origin? id).map (·.extractVars) =
      (c.clean.nodes.find? (·.id = id)).map (·.extractVars) := by
  rw [clean_nodes, List.find?_map, Option.map_map]
  rfl

end Chart

namespace Compile

open Chart

variable (s : Settings) (c : Chart)

theorem conditionsOf_unmarked (nodes : List Chart.Node) :
    conditionsOf (nodes.map Node.unmarked) = conditionsOf nodes := by
  rw [conditionsOf, List.filterMap_map]
  rfl

theorem chosen?_unmarked (nodes : List Chart.Node) :
    chosen? (nodes.map Node.unmarked) = chosen? nodes := by
  have haccepts (r : Start.Rule) : r.accepts ∘ Node.unmarked = r.accepts := by
    cases r <;> rfl
  simp only [Start.chosen?_eq, List.find?_map, haccepts, Option.map_map]
  rfl

theorem spoken_unmarked : spoken c.unmarked = (spoken c).map Node.unmarked := by
  rw [spoken, clean_unmarked, Cleaned.unmarked, List.filter_map]
  rfl

theorem staffed_unmarked : staffed s c.unmarked = staffed s c := by
  have hmiddle : middle s c.unmarked = middle s c := by
    rw [middle, spoken_unmarked, List.map_map]
    rfl
  rw [staffed, hmiddle, clean_unmarked]
  rfl

theorem conditionsOf_clean_unmarked :
    conditionsOf c.unmarked.clean.nodes = conditionsOf c.clean.nodes := by
  rw [clean_unmarked, Cleaned.unmarked, conditionsOf_unmarked]

theorem optionLabel?_unmarked (nodes : List Chart.Node) (e : Chart.Edge) :
    Routing.optionLabel? (nodes.map Node.unmarked) e = Routing.optionLabel? nodes e := by
  have hfind : (nodes.map Node.unmarked).findRev? (·.id = e.source) =
      (nodes.findRev? (·.id = e.source)).map Node.unmarked := by
    rw [List.findRev?_eq_find?_reverse, List.findRev?_eq_find?_reverse, ← List.map_reverse,
      List.find?_map]
    rfl
  simp only [Routing.optionLabel?, hfind]
  cases nodes.findRev? (·.id = e.source) <;> rfl

variable (ctx : Routing.Context)

def unmarkedContext : Routing.Context := { ctx with nodes := ctx.nodes.map Node.unmarked }

theorem label_unmarked (nodes : List Chart.Node) (e : Chart.Edge) :
    Routing.label (nodes.map Node.unmarked) e = Routing.label nodes e := by
  rw [Routing.label, Routing.label, optionLabel?_unmarked]

theorem route?_unmarked (ids : IdTable) (e : Chart.Edge) :
    Routing.route? (unmarkedContext ctx) ids e = Routing.route? ctx ids e := by
  simp only [Routing.route?, Routing.reroot, Routing.keep, unmarkedContext, label_unmarked]

theorem route_unmarked (ids : IdTable) (es : List Chart.Edge) :
    Routing.route (unmarkedContext ctx) ids es = Routing.route ctx ids es := by
  induction es generalizing ids with
  | nil => rfl
  | cons e es ih => simp only [Routing.route, route?_unmarked, ih]

theorem chosen?_spoken_unmarked : chosen? (spoken c.unmarked) = chosen? (spoken c) := by
  rw [spoken_unmarked, chosen?_unmarked]

theorem cast_start_unmarked : (cast s c.unmarked).start = (cast s c).start := by
  have hgreeting : greetingId c.unmarked = greetingId c := by
    rw [greetingId, clean_unmarked]
    rfl
  rw [cast_start_eq, cast_start_eq, chosen?_spoken_unmarked, hgreeting]

theorem routed_unmarked : routed s c.unmarked = routed s c := by
  have hcontext : context s c.unmarked = unmarkedContext (context s c) := by
    rw [context, cast_ids, staffed_unmarked, ← cast_ids, cast_start_unmarked, spoken_unmarked,
      conditionsOf_clean_unmarked]
    rfl
  rw [routed, hcontext, route_unmarked, clean_unmarked]
  rfl

variable {c d : Chart} {start? : Option String} {conditions : Conditions}

theorem named_eq (n : Chart.Node) :
    Variables.named start? conditions n =
      (if start? = some n.id then n.extractVars else []) ++
        Variables.named none conditions n.unmarked := by
  simp [Variables.named, Node.unmarked]

theorem map_congr_of_map_eq {α β γ : Type} {f : α → β} {g : α → γ} {as bs : List α}
    (h : as.map f = bs.map f) (hg : ∀ a ∈ as, ∀ b ∈ bs, f a = f b → g a = g b) :
    as.map g = bs.map g := by
  induction as generalizing bs with
  | nil =>
    cases bs with
    | nil => rfl
    | cons b bs => cases h
  | cons a as ih =>
    cases bs with
    | nil => cases h
    | cons b bs =>
      obtain ⟨hab, hrest⟩ := List.cons.inj h
      have hhead := hg a List.mem_cons_self b List.mem_cons_self hab
      have htail := ih hrest fun x hx y hy =>
        hg x (List.mem_cons_of_mem a hx) y (List.mem_cons_of_mem b hy)
      rw [List.map_cons, List.map_cons, hhead, htail]

theorem extractVars_eq_of_origin? {id : String} {n n' : Chart.Node}
    (h : (c.origin? id).map (·.extractVars) = (d.origin? id).map (·.extractVars))
    (hn : n ∈ c.clean.nodes) (hn' : n' ∈ d.clean.nodes) (hid : n.id = id) (hid' : n'.id = id) :
    n.extractVars = n'.extractVars := by
  rw [map_extractVars_origin?, map_extractVars_origin?] at h
  subst hid
  rw [find?_id c.clean_node_ids_nodup hn, ← hid', find?_id d.clean_node_ids_nodup hn'] at h
  exact Option.some.inj h

theorem startId_eq_of_chosen? {id : String} (h : (chosen? (spoken c)).map (·.1) = some id) :
    id = startId c := by
  rw [chosen?_spoken] at h
  rw [startId, h]
  rfl

section

variable (h : c.unmarked = d.unmarked)
include h

theorem clean_congr : c.clean.unmarked = d.clean.unmarked := by
  rw [← clean_unmarked, h, clean_unmarked]

theorem conditionsOf_congr : conditionsOf c.clean.nodes = conditionsOf d.clean.nodes := by
  rw [← conditionsOf_clean_unmarked, h, conditionsOf_clean_unmarked]

theorem staffed_congr : staffed s c = staffed s d := by
  rw [← staffed_unmarked, h, staffed_unmarked]

theorem cast_start_congr : (cast s c).start = (cast s d).start := by
  rw [← cast_start_unmarked, h, cast_start_unmarked]

end

theorem asked_congr (h : SameButMarks (startId c) c d) : asked s c = asked s d := by
  have hnodes : c.clean.nodes.map Node.unmarked = d.clean.nodes.map Node.unmarked :=
    congrArg Cleaned.nodes (clean_congr h.unmarked)
  have hchosen : chosen? (spoken c) = chosen? (spoken d) := by
    rw [← chosen?_spoken_unmarked, h.unmarked, chosen?_spoken_unmarked]
  rw [asked, asked, ← conditionsOf_congr h.unmarked, ← hchosen, Variables.collect,
    Variables.collect, List.flatMap_def, List.flatMap_def, map_congr_of_map_eq hnodes]
  intro n hn n' hn' hsame
  have hid : n.id = n'.id := (congrArg Chart.Node.id hsame :)
  rw [named_eq, named_eq n', hsame, ← hid]
  congr 1
  split
  -- Only the start is asked for its own list, and in that one the charts agree.
  · rename_i hstart
    have hn_id := startId_eq_of_chosen? hstart
    exact extractVars_eq_of_origin? h.extractVars hn hn' hn_id (hid.symm.trans hn_id)
  · rfl

theorem cast_nodes_congr (h : c.unmarked = d.unmarked) (hasked : asked s c = asked s d) :
    (cast s c).nodes = (cast s d).nodes := by
  have hstart : some (startId c) = some (startId d) := by
    rw [← cast_start s c, ← cast_start s d, cast_start_congr s h]
  have hdesignate : designateStart s c = designateStart s d := by
    funext n
    rw [designateStart, designateStart, hasked, Option.some.inj hstart]
  rw [cast_nodes, cast_nodes, staffed_congr s h, hdesignate]

/-- But for what the start asks for, charts that differ in marks alone compile the same. -/
theorem compile_congr (h : c.unmarked = d.unmarked) (hasked : asked s c = asked s d)
    (m : Metadata) (now : Int) : compile s m now c = compile s m now d := by
  have hname : nameOf m now c = nameOf m now d := (congrArg (nameOf m now) h :)
  have hdescription : descriptionOf m now c = descriptionOf m now d :=
    (congrArg (descriptionOf m now) h :)
  have hdroppedNodes : c.clean.droppedNodes = d.clean.droppedNodes :=
    (congrArg Cleaned.droppedNodes (clean_congr h) :)
  have hdroppedEdges : c.clean.droppedEdges = d.clean.droppedEdges :=
    (congrArg Cleaned.droppedEdges (clean_congr h) :)
  have hrouted : routed s c = routed s d := by rw [← routed_unmarked, h, routed_unmarked]
  have hnodes := cast_nodes_congr s h hasked
  have hconnection : connection? s c = connection? s d := by
    rw [connection?, connection?, hnodes, hrouted]
  rw [compile_eq, compile_eq, hname, hdescription, hnodes, hrouted, hconnection, hdroppedNodes,
    hdroppedEdges, conditionsOf_congr h, staffed_congr s h, cast_start_congr s h]

end Compile

open Compile

/-- Charts that differ in what nothing reads compile the same. -/
theorem compile_sameButMarks {s : Settings} {m : Metadata} {now : Int} {c d : Chart}
    {start : Pathway.Node} (hstart : (compile s m now c).pathway.startNode? = some start)
    (h : Chart.SameButMarks start.id c d) : compile s m now c = compile s m now d := by
  have hid : start.id = startId c := by
    obtain ⟨found, hfilter, hid⟩ := filter_isStart_cast s c
    rw [Pathway.startNode?, compile_outputNodes, ← List.head?_filter, hfilter] at hstart
    rw [← hid, Option.some.inj hstart]
  rw [hid] at h
  exact compile_congr s h.unmarked (asked_congr s h) m now

def listed : Chart where
  nodes := [⟨"q", .question "Where?", none, none, true, ["City"]⟩,
    ⟨"g", .greeting "Hello", none, none, false, ["Name"]⟩,
    ⟨"g", .question "Who?", none, some "Start", true, ["Zip"]⟩]
  edges := [⟨"e", "g", "q", none, none, none, none⟩]

def relisted : Chart where
  nodes := [⟨"q", .question "Where?", none, none, false, ["Town", "Age"]⟩,
    ⟨"g", .greeting "Hello", none, none, true, ["Name"]⟩,
    ⟨"g", .question "Who?", none, some "Start", false, []⟩]
  edges := [⟨"e", "g", "q", none, none, none, none⟩]

theorem compile_sameButMarks_relisted :
    ∃ start, (compile {} {} 0 listed).pathway.startNode? = some start ∧
      Chart.SameButMarks start.id listed relisted ∧ listed ≠ relisted ∧
      compile {} {} 0 listed = compile {} {} 0 relisted := by
  have hsame : Chart.SameButMarks "g" listed relisted := ⟨by decide, by decide⟩
  exact ⟨_, rfl, hsame, by decide, compile_sameButMarks rfl hsame⟩

end Callflow
