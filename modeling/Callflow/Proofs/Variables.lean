import Callflow.Variables
import Callflow.Proofs.Label
import Mathlib.Data.List.Nodup

/-!
The variables a pathway asks for. Each has a name of its own, trimmed and not empty, that was given
as a seed or is named by a node; they stand in the order in which they are first mentioned.
-/

namespace Callflow.Variables

open Text

variable {seeds integers names : List String} {startId : Option String} {conditions : Conditions}
  {nodes : List Chart.Node} {name : String}

theorem mem_distinct : name ∈ distinct names ↔ name ≠ "" ∧ ∃ given ∈ names, trim given = name := by
  rw [distinct, List.mem_eraseDups, List.mem_filter, List.mem_map, decide_eq_true_iff, and_comm]

theorem mem_map_trim_of_mem_distinct (h : name ∈ distinct names) : name ∈ names.map trim :=
  List.mem_map.mpr (mem_distinct.mp h).2

theorem eraseDups_append_singleton {α : Type} [DecidableEq α] (as : List α) (a : α) :
    (as ++ [a]).eraseDups = as.eraseDups ++ if a ∈ as then [] else [a] := by
  rw [List.eraseDups_append, List.removeAll, List.filter_cons, List.filter_nil]
  congr 1
  by_cases h : a ∈ as
  · simp [h]
  · simp [h, List.eraseDups_cons]

theorem distinct_append_singleton (names : List String) (given : String) :
    distinct (names ++ [given]) =
      distinct names ++ if trim given = "" ∨ trim given ∈ names.map trim then [] else [trim given] := by
  rw [distinct, List.map_append, List.filter_append]
  by_cases hempty : trim given = ""
  · simp [hempty, distinct]
  · have hfilter : ([given].map trim).filter (· ≠ "") = [trim given] := by simp [hempty]
    rw [hfilter, eraseDups_append_singleton, ← distinct]
    simp [hempty]

theorem distinct_isPrefix (names more : List String) : distinct names <+: distinct (names ++ more) := by
  rw [distinct, distinct, List.map_append, List.filter_append, List.eraseDups_append]
  exact List.prefix_append _ _

theorem pairwise_distinct (names : List String) : (distinct names).Pairwise fun a b =>
    (names.map trim).idxOf a < (names.map trim).idxOf b := by
  -- from the end: a name that is put there has not been mentioned before
  induction names using List.reverseRecOn with
  | nil => exact List.Pairwise.nil
  | append_singleton names given ih =>
    have hold : (distinct names).Pairwise fun a b =>
        ((names ++ [given]).map trim).idxOf a < ((names ++ [given]).map trim).idxOf b := by
      refine ih.imp_of_mem fun ha hb hlt => ?_
      rw [List.map_append, List.idxOf_append_of_mem (mem_map_trim_of_mem_distinct ha),
        List.idxOf_append_of_mem (mem_map_trim_of_mem_distinct hb)]
      exact hlt
    rw [distinct_append_singleton]
    split
    · rw [List.append_nil]
      exact hold
    · rename_i hnew
      refine List.pairwise_append.mpr ⟨hold, List.pairwise_singleton _ _, ?_⟩
      intro a ha b hb
      obtain rfl := List.mem_singleton.mp hb
      have ha := mem_map_trim_of_mem_distinct ha
      rw [List.map_append, List.idxOf_append_of_mem ha,
        List.idxOf_append_of_notMem fun hb => hnew (.inr hb)]
      exact Nat.lt_of_lt_of_le (List.idxOf_lt_length_of_mem ha) (Nat.le_add_right _ _)

theorem isLabel_of_mem_distinct (h : name ∈ distinct names) : IsLabel name := by
  obtain ⟨hne, given, _, rfl⟩ := mem_distinct.mp h
  exact isLabel_trim (Bool.eq_false_iff.mpr fun hblank => hne (trim_eq_empty_iff.mpr hblank))

theorem distinct_nodup (names : List String) : (distinct names).Nodup := by
  refine (pairwise_distinct names).imp ?_
  rintro a _ hlt rfl
  exact Nat.lt_irrefl _ hlt

/-- A seed, a variable that a node reads or extracts, or one that the start node is told to extract. -/
inductive IsMentioned (seeds : List String) (startId : Option String) (conditions : Conditions)
    (nodes : List Chart.Node) : String → Prop
  | seed {given : String} (h : given ∈ seeds) : IsMentioned seeds startId conditions nodes given
  | start {n : Chart.Node} {given : String} (hn : n ∈ nodes) (hid : startId = some n.id)
      (h : given ∈ n.extractVars) : IsMentioned seeds startId conditions nodes given
  | answer {n : Chart.Node} {given text : String} {options : List String} (hn : n ∈ nodes)
      (hkind : n.kind = .customerResponse text options (some given)) :
      IsMentioned seeds startId conditions nodes given
  | response {n : Chart.Node} {given text : String} {names : List String} (hn : n ∈ nodes)
      (hkind : n.kind = .response text names) (h : given ∈ names) :
      IsMentioned seeds startId conditions nodes given
  | condition {n : Chart.Node} {text : String} {found : Condition} (hn : n ∈ nodes)
      (hkind : n.kind = .conditional text) (h : conditions.lookup n.id = some (some found)) :
      IsMentioned seeds startId conditions nodes found.variableName

def mentions (seeds : List String) (startId : Option String) (conditions : Conditions)
    (nodes : List Chart.Node) : List String :=
  (seeds ++ nodes.flatMap (named startId conditions)).map trim

theorem mem_named_iff {n : Chart.Node} {given : String} :
    given ∈ named startId conditions n ↔ (startId = some n.id ∧ given ∈ n.extractVars) ∨
      (∃ text options, n.kind = .customerResponse text options (some given)) ∨
      (∃ text names, n.kind = .response text names ∧ given ∈ names) ∨
      ∃ text found, n.kind = .conditional text ∧
        conditions.lookup n.id = some (some found) ∧ found.variableName = given := by
  have hstart : given ∈ (if startId = some n.id then n.extractVars else []) ↔
      startId = some n.id ∧ given ∈ n.extractVars := by
    split <;> simp [*]
  rw [named, List.mem_append, hstart]
  refine or_congr_right ?_
  cases n.kind <;> simp [Option.join_eq_some_iff]

theorem isMentioned_iff : IsMentioned seeds startId conditions nodes name ↔
    name ∈ seeds ++ nodes.flatMap (named startId conditions) := by
  rw [List.mem_append, List.mem_flatMap]
  constructor
  · intro h
    cases h with
    | seed h => exact .inl h
    | start hn hid h => exact .inr ⟨_, hn, mem_named_iff.mpr (.inl ⟨hid, h⟩)⟩
    | answer hn hkind => exact .inr ⟨_, hn, mem_named_iff.mpr (.inr (.inl ⟨_, _, hkind⟩))⟩
    | response hn hkind h =>
      exact .inr ⟨_, hn, mem_named_iff.mpr (.inr (.inr (.inl ⟨_, _, hkind, h⟩)))⟩
    | condition hn hkind h =>
      exact .inr ⟨_, hn, mem_named_iff.mpr (.inr (.inr (.inr ⟨_, _, hkind, h, rfl⟩)))⟩
  · rintro (h | ⟨n, hn, h⟩)
    · exact .seed h
    · rcases mem_named_iff.mp h with ⟨hid, h⟩ | ⟨_, _, hkind⟩ | ⟨_, _, hkind, h⟩ | ⟨_, _, hkind, hfound, rfl⟩
      · exact .start hn hid h
      · exact .answer hn hkind
      · exact .response hn hkind h
      · exact .condition hn hkind hfound

theorem map_name_collect : (collect seeds integers startId conditions nodes).map (·.name) =
    distinct (seeds ++ nodes.flatMap (named startId conditions)) := by
  rw [collect, List.map_map]
  exact List.map_id _

theorem filter_name_collect
    (h : name ∈ distinct (seeds ++ nodes.flatMap (named startId conditions))) :
    (collect seeds integers startId conditions nodes).filter (·.name = name) =
      [describe integers name] := by
  have hname : (fun v : Pathway.Variable => decide (v.name = name)) ∘ describe integers =
      (· == name) := rfl
  rw [collect, List.filter_map, hname, List.filter_beq, List.count_eq_one_of_mem (distinct_nodup _) h]
  rfl

theorem type_describe (integers : List String) (name : String) :
    (describe integers name).type = .integer ↔ name ∈ integers := by
  rw [describe]
  split <;> simp [*]

theorem collect_isPrefix (front back : List Chart.Node) :
    collect seeds integers startId conditions front <+:
      collect seeds integers startId conditions (front ++ back) := by
  rw [collect, collect, List.flatMap_append, ← List.append_assoc]
  exact (distinct_isPrefix _ _).map _

theorem collect_perm {nodes' : List Chart.Node} (h : nodes.Perm nodes') :
    (collect seeds integers startId conditions nodes).Perm
      (collect seeds integers startId conditions nodes') := by
  refine List.Perm.map _ ((List.perm_ext_iff_of_nodup (distinct_nodup _) (distinct_nodup _)).mpr ?_)
  intro name
  simp only [mem_distinct, List.mem_append, List.mem_flatMap, h.mem_iff]

/-- The variables that are asked for are those that a seed or a node mentions by a name that is not
blank, each once and as what it is, in the order of first mention: those of the seeds first, then
node by node, so that more nodes only add to the end and the same nodes in another order ask for
the same variables. -/
theorem collect_lists_mentioned (seeds integers : List String) (startId : Option String)
    (conditions : Conditions) (nodes : List Chart.Node) :
    ((collect seeds integers startId conditions nodes).map (·.name)).Nodup ∧
      (∀ v ∈ collect seeds integers startId conditions nodes, IsLabel v.name ∧
        (v.type = .integer ↔ v.name ∈ integers) ∧ v.required = false) ∧
      (∀ name, name ∈ (collect seeds integers startId conditions nodes).map (·.name) ↔
        name ≠ "" ∧ ∃ given, IsMentioned seeds startId conditions nodes given ∧ trim given = name) ∧
      ((collect seeds integers startId conditions nodes).map (·.name)).Pairwise (fun a b =>
        (mentions seeds startId conditions nodes).idxOf a <
          (mentions seeds startId conditions nodes).idxOf b) ∧
      (∀ front back, nodes = front ++ back →
        collect seeds integers startId conditions front <+:
          collect seeds integers startId conditions nodes) ∧
      ∀ nodes', nodes.Perm nodes' →
        (collect seeds integers startId conditions nodes).Perm
          (collect seeds integers startId conditions nodes') := by
  rw [map_name_collect]
  refine ⟨distinct_nodup _, ?_, ?_, pairwise_distinct _, ?_, fun _ => collect_perm⟩
  · intro v hv
    obtain ⟨name, hname, rfl⟩ := List.mem_map.mp hv
    exact ⟨isLabel_of_mem_distinct hname, type_describe integers name, rfl⟩
  · intro name
    simp only [mem_distinct, isMentioned_iff]
  · rintro front back rfl
    exact collect_isPrefix front back

/-- A padded name, a blank one and one that is mentioned twice. -/
example : (collect ["Age", " "] ["Zip"] (some "a") [("c", some ⟨"Zip", .lessThan, "5"⟩)]
    [⟨"a", .response "Hi" [" Zip ", "Mail"], none, none, false, ["Name"]⟩,
      ⟨"b", .customerResponse "Hi" [] (some "Age"), none, none, false, ["Street"]⟩,
      ⟨"c", .conditional "if (Zip < 5)", none, none, false, []⟩]).map (fun v => (v.name, v.type)) =
    [("Age", .string), ("Name", .string), ("Zip", .integer), ("Mail", .string)] := by decide

end Callflow.Variables
