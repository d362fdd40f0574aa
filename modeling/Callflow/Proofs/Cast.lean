import Callflow.Proofs.CleanedChart
import Callflow.Proofs.Start

/-!
The nodes of a pathway: those of its chart that speak, in their order, between a greeting and a
closing that are added if there is none, all under different identifiers, and one of them the start.
-/

namespace Callflow.Compile

open Identifier

variable (s : Settings) (c : Chart)

def spoken : List Chart.Node := c.clean.nodes.filter (!·.isConditional)

/-- The nodes of the pathway that come from the chart, before one is made the start. -/
def middle : List Pathway.Node := (spoken c).map (Assembly.node s)

def greetingId : String := (c.clean.nodeIds.reserve "default_greeting").1

def front : List Pathway.Node :=
  if (middle s c).any Assembly.isDefault then [] else [Assembly.greeting s (greetingId c)]

/-- The table of the nodes once the greeting has its identifier. -/
def frontIds : IdTable :=
  if (middle s c).any Assembly.isDefault then c.clean.nodeIds
  else (c.clean.nodeIds.reserve "default_greeting").2

def closingId : String := ((frontIds s c).reserve "end_call").1

def back : List Pathway.Node :=
  if (middle s c).any Assembly.isEndCall then [] else [Assembly.closing s (closingId s c)]

def staffed : Assembly.Staffed :=
  ((Assembly.Staffed.mk (middle s c) c.clean.nodeIds []).withGreeting s).withClosing s

def cast : Cast := castOf s c.clean (spoken c) (conditionsOf c.clean.nodes)

def startId : String := (c.startNode?.map fun n => c.idOf n.id).getD (greetingId c)

def asked : List Pathway.Variable :=
  Variables.collect s.seedVariables s.integerVariables ((chosen? (spoken c)).map (·.1))
    (conditionsOf c.clean.nodes) c.clean.nodes

def designateStart (n : Pathway.Node) : Pathway.Node :=
  if n.id = startId c then Start.designate (asked s c) n else n

theorem staffed_nodes : (staffed s c).nodes = front s c ++ middle s c ++ back s c := by
  cases hd : (middle s c).any Assembly.isDefault <;> cases he : (middle s c).any Assembly.isEndCall <;>
    simp [staffed, Assembly.Staffed.withGreeting, Assembly.Staffed.withClosing, front, back, hd, he,
      greetingId, closingId, frontIds, Assembly.isEndCall, Assembly.greeting]

theorem staffed_added : (staffed s c).added = (front s c ++ back s c).map (·.id) := by
  cases hd : (middle s c).any Assembly.isDefault <;> cases he : (middle s c).any Assembly.isEndCall <;>
    simp [staffed, Assembly.Staffed.withGreeting, Assembly.Staffed.withClosing, front, back, hd, he,
      greetingId, closingId, frontIds, Assembly.isEndCall, Assembly.greeting, Assembly.closing]

theorem frontIds_taken :
    (frontIds s c).taken = (front s c).map (·.id) ++ c.clean.nodeIds.taken := by
  cases hd : (middle s c).any Assembly.isDefault <;>
    simp [frontIds, front, hd, greetingId, Assembly.greeting]

variable {s c}

theorem of_mem_front {n : Pathway.Node} (h : n ∈ front s c) :
    n = Assembly.greeting s (greetingId c) := by
  unfold front at h
  split at h
  · simp at h
  · exact List.mem_singleton.mp h

theorem of_mem_back {n : Pathway.Node} (h : n ∈ back s c) :
    n = Assembly.closing s (closingId s c) := by
  unfold back at h
  split at h
  · simp at h
  · exact List.mem_singleton.mp h

theorem greetingId_not_mem_taken : greetingId c ∉ c.clean.nodeIds.taken :=
  IdTable.reserve_not_mem_taken c.clean.nodeIds _

theorem closingId_not_mem_taken : closingId s c ∉ (frontIds s c).taken :=
  IdTable.reserve_not_mem_taken (frontIds s c) _

theorem added_not_mem_taken {n : Pathway.Node} (h : n ∈ front s c ∨ n ∈ back s c) :
    n.id ∉ c.clean.nodeIds.taken := by
  rcases h with h | h
  · rw [of_mem_front h]
    exact greetingId_not_mem_taken
  · rw [of_mem_back h]
    intro hmem
    refine closingId_not_mem_taken (s := s) (c := c) ?_
    rw [frontIds_taken]
    exact List.mem_append_right _ hmem

variable (s c)

theorem spoken_eq : spoken c = c.speakingNodes.map (Chart.Node.tidy c.clean.nodeIds) := by
  rw [spoken, Chart.clean_nodes, List.filter_map]
  rfl

theorem middle_ids : (middle s c).map (·.id) = c.speakingNodes.map fun n => c.idOf n.id := by
  rw [middle, spoken_eq, List.map_map, List.map_map]
  rfl

theorem middle_ids_nodup : ((middle s c).map (·.id)).Nodup := by
  have hsub : (spoken c).Sublist c.clean.nodes := List.filter_sublist
  have hids : (middle s c).map (·.id) = (spoken c).map (·.id) := by
    rw [middle, List.map_map]
    rfl
  rw [hids]
  exact (c.clean_node_ids_nodup).sublist (hsub.map _)

variable {s c}

theorem mem_speakingNodes {n : Chart.Node} :
    n ∈ c.speakingNodes ↔ n ∈ c.usableNodes ∧ n.isConditional = false := by
  simp [Chart.speakingNodes]

theorem middle_id_mem_taken {n : Pathway.Node} (h : n ∈ middle s c) :
    n.id ∈ c.clean.nodeIds.taken := by
  have hid : n.id ∈ (middle s c).map (·.id) := List.mem_map_of_mem h
  rw [middle_ids] at hid
  obtain ⟨m, hm, hmid⟩ := List.mem_map.mp hid
  rw [← hmid]
  exact Chart.idOf_mem_taken (Chart.isNode_id (mem_speakingNodes.mp hm).1)

variable (s c)

theorem staffed_ids_nodup : ((staffed s c).nodes.map (·.id)).Nodup := by
  rw [staffed_nodes, List.map_append, List.map_append, List.nodup_append]
  have hfront : ((front s c).map (·.id)).Nodup := by
    unfold front
    split <;> simp
  have hback : ((back s c).map (·.id)).Nodup := by
    unfold back
    split <;> simp
  -- The nodes of the chart have identifiers of the table, the greeting one that the table did not
  -- have, and the closing one that it did not have even with the greeting.
  refine ⟨List.nodup_append.mpr ⟨hfront, middle_ids_nodup s c, ?_⟩, hback, ?_⟩
  · intro x hx y hy hxy
    obtain ⟨n, hn, rfl⟩ := List.mem_map.mp hx
    obtain ⟨m, hm, rfl⟩ := List.mem_map.mp hy
    exact added_not_mem_taken (.inl hn) (hxy ▸ middle_id_mem_taken hm)
  · intro x hx y hy hxy
    obtain ⟨m, hm, rfl⟩ := List.mem_map.mp hy
    rw [of_mem_back hm] at hxy
    have hx' : x ∈ (frontIds s c).taken := by
      rw [frontIds_taken]
      rcases List.mem_append.mp hx with hx | hx
      · exact List.mem_append_left _ hx
      · obtain ⟨n, hn, rfl⟩ := List.mem_map.mp hx
        exact List.mem_append_right _ (middle_id_mem_taken hn)
    exact closingId_not_mem_taken (hxy ▸ hx')

variable {s c}

theorem mem_staffed {n : Pathway.Node} :
    n ∈ (staffed s c).nodes ↔ n ∈ front s c ∨ n ∈ middle s c ∨ n ∈ back s c := by
  rw [staffed_nodes, List.mem_append, List.mem_append, or_assoc]

theorem proper_of_mem_staffed {n : Pathway.Node} (h : n ∈ (staffed s c).nodes) : Proper n.id := by
  rcases mem_staffed.mp h with h | h | h
  · rw [of_mem_front h]
    exact IdTable.proper_reserve _ (by decide)
  · exact c.proper_of_mem_nodeIds (middle_id_mem_taken h)
  · rw [of_mem_back h]
    exact IdTable.proper_reserve _ (by decide)

/-- What holds of the images of the nodes of the chart, and of a greeting and a closing whatever their
identifiers are, holds of all nodes. -/
theorem forall_mem_staffed {p : Pathway.Node → Prop}
    (hnode : ∀ n ∈ c.speakingNodes, p (Assembly.node s (n.tidy c.clean.nodeIds)))
    (hgreeting : ∀ id, p (Assembly.greeting s id)) (hclosing : ∀ id, p (Assembly.closing s id)) :
    ∀ n ∈ (staffed s c).nodes, p n := by
  intro n h
  rcases mem_staffed.mp h with h | h | h
  · rw [of_mem_front h]
    exact hgreeting _
  · obtain ⟨m, hm, rfl⟩ := List.mem_map.mp h
    rw [spoken_eq] at hm
    obtain ⟨k, hk, rfl⟩ := List.mem_map.mp hm
    exact hnode k hk
  · rw [of_mem_back h]
    exact hclosing _

theorem isPlain_of_mem_staffed {n : Pathway.Node} (h : n ∈ (staffed s c).nodes) :
    Start.IsPlain n :=
  forall_mem_staffed (fun _ _ => Start.isPlain_node s _) (Start.isPlain_greeting s)
    (Start.isPlain_closing s) n h

variable (s c)

theorem chosen?_spoken :
    (chosen? (spoken c)).map (·.1) = c.startNode?.map fun n => c.idOf n.id := by
  -- Cleaning leaves all that the rules look at as it is.
  have haccepts (r : Start.Rule) : r.accepts ∘ Chart.Node.tidy c.clean.nodeIds = r.accepts := by
    cases r <;> rfl
  rw [Start.chosen?_map_fst, spoken_eq, List.find?_map, List.find?_map, List.head?_map, haccepts,
    haccepts, ← Option.map_or, ← Option.map_or, Option.map_map]
  rfl

variable {s c}

theorem mem_of_startNode? {n : Chart.Node} (h : c.startNode? = some n) : n ∈ c.speakingNodes := by
  rw [Chart.startNode?] at h
  rcases Option.or_eq_some_iff.mp h with h | ⟨_, h⟩
  · rcases Option.or_eq_some_iff.mp h with h | ⟨_, h⟩
    · exact List.mem_of_find?_eq_some h
    · exact List.mem_of_find?_eq_some h
  · exact List.mem_of_head? h

theorem speakingNodes_of_startNode? (h : c.startNode? = none) : c.speakingNodes = [] := by
  rw [Chart.startNode?, Option.or_eq_none_iff] at h
  exact List.head?_eq_none_iff.mp h.2

theorem staffed_nodes_of_startNode? (h : c.startNode? = none) :
    (staffed s c).nodes =
      [Assembly.greeting s (greetingId c), Assembly.closing s (closingId s c)] := by
  have hmiddle : middle s c = [] := by
    rw [middle, spoken_eq, speakingNodes_of_startNode? h]
    rfl
  rw [staffed_nodes, front, back, hmiddle]
  rfl

variable (s c)

/-- The rule under which the greeting that is added to a silent chart is the start. -/
def silentRule : Start.Rule :=
  if Greeting.mentions s.synthesizedGreeting s.greetingTerms then .greetingText else .fallback

theorem fallback?_eq (h : c.startNode? = none) :
    fallback? s (staffed s c).nodes = some (greetingId c, silentRule s) := by
  rw [staffed_nodes_of_startNode? h, fallback?, silentRule]
  cases hg : Greeting.mentions s.synthesizedGreeting s.greetingTerms <;>
    simp [Start.selectFallback?, List.findIdx?_cons, Assembly.greeting, Assembly.closing,
      Pathway.Node.spokenText, hg]

theorem cast_start_eq :
    (cast s c).start = (chosen? (spoken c)).or (some (greetingId c, silentRule s)) := by
  have hstart : (cast s c).start =
      (chosen? (spoken c)).or (fallback? s (staffed s c).nodes) := rfl
  have hchosen := chosen?_spoken c
  rw [hstart]
  cases hn : c.startNode? with
  | some n =>
    rw [hn, Option.map_some] at hchosen
    obtain ⟨p, hp, _⟩ := Option.map_eq_some_iff.mp hchosen
    rw [hp, Option.some_or, Option.some_or]
  | none => rw [fallback?_eq s c hn]

theorem cast_start : (cast s c).start.map (·.1) = some (startId c) := by
  rw [cast_start_eq, Option.map_or, chosen?_spoken, startId]
  cases c.startNode? <;> rfl

theorem exists_start : ∃ n ∈ (staffed s c).nodes, n.id = startId c := by
  cases hn : c.startNode? with
  | some n =>
    have hid : c.idOf n.id ∈ (middle s c).map (·.id) := by
      rw [middle_ids]
      exact List.mem_map_of_mem (mem_of_startNode? hn)
    obtain ⟨m, hm, hmid⟩ := List.mem_map.mp hid
    exact ⟨m, mem_staffed.mpr (.inr (.inl hm)), by simpa [startId, hn] using hmid⟩
  | none =>
    refine ⟨Assembly.greeting s (greetingId c), ?_, by simp [startId, hn, Assembly.greeting]⟩
    rw [staffed_nodes_of_startNode? hn]
    exact List.mem_cons_self

theorem updateFirst_eq_map {α : Type} {p : α → Bool} {f : α → α} {as : List α}
    (h : as.Pairwise fun a b => ¬ (p a = true ∧ p b = true)) :
    updateFirst p f as = as.map fun a => if p a then f a else a := by
  induction as with
  | nil => rfl
  | cons a as ih =>
    obtain ⟨ha, htail⟩ := List.pairwise_cons.mp h
    by_cases hp : p a = true
    -- None behind the first that is accepted is accepted too.
    · have hsame : as.map (fun b => if p b then f b else b) = as := by
        rw [List.map_congr_left (g := id), List.map_id]
        intro b hb
        have hpb : ¬ p b = true := fun hpb => ha b hb ⟨hp, hpb⟩
        simp [hpb]
      simp [updateFirst, hp, hsame]
    · simp [updateFirst, hp, ih htail]

theorem cast_nodes_of_start {id : String} {rule : Start.Rule}
    (h : (cast s c).start = some (id, rule)) :
    (cast s c).nodes =
      updateFirst (·.id == id) (Start.designate (asked s c)) (staffed s c).nodes := by
  simp only [cast, castOf] at h ⊢
  rw [h]
  rfl

theorem cast_nodes : (cast s c).nodes = (staffed s c).nodes.map (designateStart s c) := by
  obtain ⟨⟨id, rule⟩, hstart, hid⟩ := Option.map_eq_some_iff.mp (cast_start s c)
  obtain rfl : id = startId c := hid
  rw [cast_nodes_of_start s c hstart, updateFirst_eq_map]
  · simp [designateStart]
  · refine (List.pairwise_map.mp (staffed_ids_nodup s c)).imp ?_
    rintro a b hne ⟨ha, hb⟩
    exact hne ((eq_of_beq ha).trans (eq_of_beq hb).symm)

end Callflow.Compile
