import Callflow.Chart
import Mathlib.Data.List.Nodup
import Mathlib.Data.List.Induction

/-!
The graph that a chart draws: the nodes and edges of use, what a compilation makes of each edge, and
the node that is to start the call.
-/

namespace Callflow.Chart

/-- A node behind others is of use if it has an identifier and none of them has the same. -/
def Node.isUsable (before : List Node) (n : Node) : Bool :=
  n.id != "" && before.all (·.id != n.id)

def withEarlier (before : List Node) : List Node → List (List Node × Node)
  | [] => []
  | n :: rest => (before, n) :: withEarlier (before ++ [n]) rest

def usable (ns : List Node) : List Node :=
  ((withEarlier [] ns).filter fun (before, n) => n.isUsable before).map (·.2)

def unusable (ns : List Node) : List Node :=
  ((withEarlier [] ns).filter fun (before, n) => !n.isUsable before).map (·.2)

variable (c : Chart)

def usableNodes : List Node := usable c.nodes

/-- The nodes of use that say something. -/
def speakingNodes : List Node := c.usableNodes.filter (!·.isConditional)

def isNode (key : String) : Bool := c.usableNodes.any (·.id == key)

def isConditionalNode (key : String) : Bool :=
  c.usableNodes.any fun n => n.id == key && n.isConditional

def isUsableEdge (e : Edge) : Bool := e.id != "" && c.isNode e.source && c.isNode e.target

def usableEdges : List Edge := c.edges.filter c.isUsableEdge

def Leads (a b : String) : Prop := ∃ e ∈ c.usableEdges, e.source = a ∧ e.target = b

inductive EdgeClass where
  | unusable
  | intoConditional
  | fromConditional
  | plain
  deriving DecidableEq, Repr

def edgeClass (e : Edge) : EdgeClass :=
  if !c.isUsableEdge e then .unusable
  else if c.isConditionalNode e.target then .intoConditional
  else if c.isConditionalNode e.source then .fromConditional
  else .plain

/-- The node to start with: the first greeting, or else the first with the label or the name `Start`,
or else the first. -/
def startNode? : Option Node :=
  ((c.speakingNodes.find? (·.kind.isGreeting)).or
    (c.speakingNodes.find? fun n => n.label == some "Start" || n.name == some "Start")).or
    c.speakingNodes.head?

variable {c}

theorem withEarlier_append_singleton (before ns : List Node) (n : Node) :
    withEarlier before (ns ++ [n]) = withEarlier before ns ++ [(before ++ ns, n)] := by
  induction ns generalizing before with
  | nil => simp [withEarlier]
  | cons m ns ih => simp [withEarlier, ih]

theorem usable_append_singleton (ns : List Node) (n : Node) :
    usable (ns ++ [n]) = usable ns ++ if n.isUsable ns then [n] else [] := by
  rw [usable, withEarlier_append_singleton, List.filter_append, List.map_append]
  cases h : n.isUsable ns <;> simp [usable, h]

theorem unusable_append_singleton (ns : List Node) (n : Node) :
    unusable (ns ++ [n]) = unusable ns ++ if n.isUsable ns then [] else [n] := by
  rw [unusable, withEarlier_append_singleton, List.filter_append, List.map_append]
  cases h : n.isUsable ns <;> simp [unusable, h]

theorem isUsable_iff {ns : List Node} {n : Node} :
    n.isUsable ns = true ↔ n.id ≠ "" ∧ ∀ m ∈ ns, m.id ≠ n.id := by
  simp [Node.isUsable]

theorem nodup_map_append_singleton {α β : Type} {f : α → β} {as : List α} {a : α} :
    ((as ++ [a]).map f).Nodup ↔ f a ∉ as.map f ∧ (as.map f).Nodup := by
  rw [List.map_append, List.map_singleton, ← List.concat_eq_append, List.nodup_concat]

theorem mem_of_mem_usable {ns : List Node} {n : Node} (h : n ∈ usable ns) : n ∈ ns := by
  induction ns using List.reverseRecOn with
  | nil => exact h
  | append_singleton ns m ih =>
    rw [usable_append_singleton] at h
    rcases List.mem_append.mp h with h | h
    · exact List.mem_append_left _ (ih h)
    · split at h
      · exact List.mem_append_right _ h
      · exact nomatch h

theorem mem_usable_ids {ns : List Node} {key : String} :
    key ∈ (usable ns).map (·.id) ↔ key ≠ "" ∧ key ∈ ns.map (·.id) := by
  induction ns using List.reverseRecOn with
  | nil => simp [usable, withEarlier]
  | append_singleton ns n ih =>
    rw [usable_append_singleton, List.map_append, List.mem_append, ih, List.map_append,
      List.mem_append]
    by_cases hu : n.isUsable ns = true
    · have hne := (isUsable_iff.mp hu).1
      simp only [hu, if_true, List.map_cons, List.map_nil, List.mem_singleton]
      constructor
      · rintro (⟨hk, hmem⟩ | rfl)
        · exact ⟨hk, .inl hmem⟩
        · exact ⟨hne, .inr rfl⟩
      · rintro ⟨hk, hmem | hmem⟩
        · exact .inl ⟨hk, hmem⟩
        · exact .inr hmem
    · simp only [hu, Bool.false_eq_true, if_false, List.map_nil, List.not_mem_nil, or_false,
        List.map_cons, List.mem_singleton]
      constructor
      · rintro ⟨hk, hmem⟩
        exact ⟨hk, .inl hmem⟩
      · rintro ⟨hk, hmem | rfl⟩
        · exact ⟨hk, hmem⟩
        · refine ⟨hk, ?_⟩
          by_contra hnot
          refine hu (isUsable_iff.mpr ⟨hk, ?_⟩)
          intro m hm he
          exact hnot (List.mem_map.mpr ⟨m, hm, he⟩)

theorem usable_eq_self {ns : List Node} (hnodup : (ns.map (·.id)).Nodup)
    (hne : ∀ n ∈ ns, n.id ≠ "") : usable ns = ns ∧ unusable ns = [] := by
  induction ns using List.reverseRecOn with
  | nil => exact ⟨rfl, rfl⟩
  | append_singleton ns n ih =>
    obtain ⟨hnew, hns⟩ := nodup_map_append_singleton.mp hnodup
    obtain ⟨husable, hunusable⟩ := ih hns fun m hm => hne m (List.mem_append_left _ hm)
    have hn : n.isUsable ns = true := by
      refine isUsable_iff.mpr ⟨hne n (List.mem_append_right _ List.mem_cons_self), ?_⟩
      intro m hm hid
      exact hnew (List.mem_map.mpr ⟨m, hm, hid⟩)
    rw [usable_append_singleton, unusable_append_singleton, if_pos hn, if_pos hn, husable, hunusable]
    exact ⟨rfl, rfl⟩

theorem usable_ids_nodup (ns : List Node) : ((usable ns).map (·.id)).Nodup := by
  induction ns using List.reverseRecOn with
  | nil => simp [usable, withEarlier]
  | append_singleton ns n ih =>
    rw [usable_append_singleton]
    by_cases hu : n.isUsable ns = true
    · rw [if_pos hu, nodup_map_append_singleton]
      refine ⟨?_, ih⟩
      intro hmem
      obtain ⟨m, hm, hid⟩ := List.mem_map.mp (mem_usable_ids.mp hmem).2
      exact (isUsable_iff.mp hu).2 m hm hid
    · simpa [hu] using ih

theorem isNode_iff {key : String} : c.isNode key = true ↔ key ∈ c.usableNodes.map (·.id) := by
  simp [isNode]

theorem isUsableEdge_iff {e : Edge} : c.isUsableEdge e = true ↔
    e.id ≠ "" ∧ c.isNode e.source = true ∧ c.isNode e.target = true := by
  rw [isUsableEdge, Bool.and_eq_true, Bool.and_eq_true, bne_iff_ne, and_assoc]

theorem isNode_of_mem_usableEdges {e : Edge} (h : e ∈ c.usableEdges) :
    c.isNode e.source = true ∧ c.isNode e.target = true :=
  (isUsableEdge_iff.mp (List.mem_filter.mp h).2).2

theorem eq_of_id_eq {m n : Node} (hm : m ∈ c.usableNodes) (hn : n ∈ c.usableNodes)
    (h : m.id = n.id) : m = n :=
  List.inj_on_of_nodup_map (usable_ids_nodup c.nodes) hm hn h

theorem isConditionalNode_id {n : Node} (hn : n ∈ c.usableNodes) :
    c.isConditionalNode n.id = n.isConditional := by
  rw [Bool.eq_iff_iff, isConditionalNode, List.any_eq_true]
  constructor
  · rintro ⟨m, hm, h⟩
    obtain ⟨hid, hcond⟩ := (Bool.and_eq_true _ _).mp h
    rwa [eq_of_id_eq hm hn (by simpa using hid)] at hcond
  · intro h
    exact ⟨n, hn, by simp [h]⟩

end Callflow.Chart
