import Callflow.Pathway.Outline
import Callflow.Proofs.Integrity

/-!
The outline of a pathway, read line by line. What is spoken is quoted, so it breaks no line whatever
it holds; the identifiers break none either. So the outline of a compiled pathway has a line for the
pathway and for each node and each edge one: a node is followed by the edges that leave it, every
edge leaves one node, and one node is marked as the start.
-/

namespace Callflow

namespace Text

def IsLine (s : String) : Prop := '\n' ∉ s.toList

instance (s : String) : Decidable (IsLine s) := inferInstanceAs (Decidable ('\n' ∉ s.toList))

def lines (s : String) : List String := (s.split '\n').toList.map (·.copy)

variable {s t : String}

theorem isLine_append_iff : IsLine (s ++ t) ↔ IsLine s ∧ IsLine t := by
  rw [IsLine, String.toList_append, List.mem_append, not_or]
  rfl

theorem isLine_of_isClean (h : Identifier.isClean s = true) : IsLine s := by
  intro hbreak
  have hclean := List.all_eq_true.mp h '\n' hbreak
  cases hclean

theorem newline_not_mem_hexDigits (n : Nat) : '\n' ∉ hexDigits n := by
  have hdigit (k : Nat) : '\n' ≠ k.digitChar := (Nat.digitChar_ne '\n' (by decide)).symm
  induction n using Nat.strongRecOn with
  | ind n ih =>
    rw [hexDigits, Nat.toDigits_eq_if (by decide)]
    split
    · rw [List.mem_singleton]
      exact hdigit n
    · rename_i hle
      rw [List.mem_append, List.mem_singleton]
      rintro (h | h)
      · exact ih (n / 16) (by omega) h
      · exact hdigit (n % 16) h

theorem newline_not_mem_quoteChar (c : Char) : '\n' ∉ quoteChar c := by
  unfold quoteChar
  split
  case h_7 c _ _ _ hbreak _ _ =>
    split
    · simp [newline_not_mem_hexDigits]
    · rw [List.mem_singleton]
      exact fun h => hbreak h.symm
  all_goals decide

theorem isLine_quoted (s : String) : IsLine (quoted s) := by
  rw [IsLine, quoted, String.toList_ofList, List.mem_cons, List.mem_append, List.mem_flatMap]
  rintro (h | ⟨c, _, h⟩ | h)
  · cases h
  · exact newline_not_mem_quoteChar c h
  · rw [List.mem_singleton] at h
    cases h

theorem lines_intercalate {ls : List String} (hls : ∀ l ∈ ls, IsLine l) (hne : ls ≠ []) :
    lines (String.intercalate "\n" ls) = ls := by
  have hsplit := String.toList_split_intercalate hls
  rwa [if_neg hne] at hsplit

end Text

open Text

namespace Pathway

/-- What a pathway and its parts are called breaks no line. -/
structure IsNamedOnLines (p : Pathway) : Prop where
  name : IsLine p.name
  description : IsLine p.description
  nodes : ∀ n ∈ p.outputNodes, IsLine n.data.name
  edges : ∀ e ∈ p.edges, IsLine e.label

def leaving (p : Pathway) (n : Node) : List Edge := p.edges.filter (·.source = n.id)

def nodeLines (p : Pathway) (n : Node) : List String := n.line :: (p.leaving n).map Edge.line

def isMarked (line : String) : Bool := "  *".toList.isPrefixOf line.toList

/-- The lines of an outline. -/
structure IsOutlinedBy (p : Pathway) (ls : List String) : Prop where
  lines : ls = p.headLine :: p.outputNodes.flatMap p.nodeLines
  length : ls.length = 1 + p.outputNodes.length + p.edges.length
  edges_nodup : p.edges.Nodup
  edges_once : (p.outputNodes.flatMap p.leaving).Perm p.edges
  marked : ∃ start ∈ p.outputNodes, start.isStart = true ∧ ls.filter isMarked = [start.line]

variable {p : Pathway}

theorem isLine_headLine (h : p.IsNamedOnLines) : IsLine p.headLine := by
  simp only [headLine, isLine_append_iff]
  exact ⟨⟨⟨⟨by decide, h.name⟩, by decide⟩, h.description⟩, by decide⟩

theorem NodeType.isLine_name (type : NodeType) : IsLine type.name := by
  cases type <;> decide

theorem Node.isLine_line {n : Node} (hid : IsLine n.id) (hname : IsLine n.data.name) :
    IsLine n.line := by
  have hmark : IsLine (if n.isStart then "*" else " ") := by split <;> decide
  simp only [line, isLine_append_iff]
  exact ⟨⟨⟨⟨⟨⟨⟨⟨⟨by decide, hmark⟩, by decide⟩, hid⟩, by decide⟩, n.type.isLine_name⟩, by decide⟩,
    hname⟩, by decide⟩, isLine_quoted n.spokenText⟩

theorem Edge.isLine_line {e : Edge} (hlabel : IsLine e.label) (htarget : IsLine e.target) :
    IsLine e.line := by
  simp only [line, isLine_append_iff]
  exact ⟨⟨⟨by decide, hlabel⟩, by decide⟩, htarget⟩

theorem outlineLines_eq (p : Pathway) :
    p.outlineLines = p.headLine :: p.outputNodes.flatMap p.nodeLines := rfl

theorem isLine_of_mem_outlineLines (hp : p.Integrity) (h : p.IsNamedOnLines) :
    ∀ l ∈ p.outlineLines, IsLine l := by
  have hid (n : Node) (hn : n ∈ p.outputNodes) : IsLine n.id :=
    isLine_of_isClean (hp.node_ids_proper n hn).2
  rw [outlineLines_eq, List.forall_mem_cons]
  refine ⟨isLine_headLine h, ?_⟩
  intro l hl
  obtain ⟨n, hn, hl⟩ := List.mem_flatMap.mp hl
  rcases List.mem_cons.mp hl with rfl | hl
  · exact Node.isLine_line (hid n hn) (h.nodes n hn)
  · obtain ⟨e, he, rfl⟩ := List.mem_map.mp hl
    have hmem : e ∈ p.edges := List.mem_of_mem_filter he
    obtain ⟨target, ht, htarget⟩ := (hp.edges_join e hmem).target_mem
    exact Edge.isLine_line (h.edges e hmem) (htarget ▸ hid target ht)

theorem lines_outline (hp : p.Integrity) (h : p.IsNamedOnLines) :
    lines p.outline = p.outlineLines :=
  lines_intercalate (isLine_of_mem_outlineLines hp h) (List.cons_ne_nil _ _)

open scoped List in
/-- Grouped by keys that are all different, what has one of them is there once. -/
theorem flatMap_filter_perm {α β κ : Type} [DecidableEq κ] (key : α → κ) (group : β → κ)
    (as : List α) {bs : List β} (hbs : (bs.map group).Nodup) :
    (bs.flatMap fun b => as.filter (key · = group b)).Perm
      (as.filter (key · ∈ bs.map group)) := by
  induction bs with
  | nil => simp
  | cons b bs ih =>
    rw [List.map_cons, List.nodup_cons] at hbs
    let rest := as.filter (key · ∈ (b :: bs).map group)
    have hhere : rest.filter (key · = group b) = as.filter (key · = group b) := by
      rw [List.filter_filter]
      refine List.filter_congr fun a _ => ?_
      by_cases h : key a = group b <;> simp [h]
    have hlater : rest.filter (fun a => !decide (key a = group b)) = as.filter (key · ∈ bs.map group) := by
      rw [List.filter_filter]
      refine List.filter_congr fun a _ => ?_
      by_cases h : key a = group b
      · simpa [h] using hbs.1
      · simp [h]
    calc (b :: bs).flatMap (fun b => as.filter (key · = group b))
        = as.filter (key · = group b) ++ bs.flatMap fun b => as.filter (key · = group b) :=
          List.flatMap_cons
      _ ~ as.filter (key · = group b) ++ as.filter (key · ∈ bs.map group) :=
          (ih hbs.2).append_left _
      _ = rest.filter (key · = group b) ++ rest.filter (fun a => !decide (key a = group b)) := by
          rw [hhere, hlater]
      _ ~ rest := List.filter_append_perm _ rest

theorem edges_nodup (hp : p.Integrity) : p.edges.Nodup := hp.edge_ids_nodup.of_map

theorem flatMap_leaving_perm (hp : p.Integrity) : (p.outputNodes.flatMap p.leaving).Perm p.edges := by
  have hall : p.edges.filter (·.source ∈ p.outputNodes.map (·.id)) = p.edges := by
    rw [List.filter_eq_self]
    intro e he
    simpa using (hp.edges_join e he).source_mem
  have hperm := flatMap_filter_perm Edge.source Node.id p.edges hp.node_ids_nodup
  rwa [hall] at hperm

theorem length_flatMap_nodeLines (p : Pathway) (ns : List Node) :
    (ns.flatMap p.nodeLines).length = ns.length + (ns.flatMap p.leaving).length := by
  induction ns with
  | nil => rfl
  | cons n ns ih =>
    rw [List.flatMap_cons, List.flatMap_cons, List.length_append, List.length_append, ih, nodeLines,
      List.length_cons, List.length_map, List.length_cons]
    omega

theorem length_outlineLines (hp : p.Integrity) :
    p.outlineLines.length = 1 + p.outputNodes.length + p.edges.length := by
  rw [outlineLines_eq, List.length_cons, length_flatMap_nodeLines,
    (flatMap_leaving_perm hp).length_eq]
  omega

theorem isMarked_headLine (p : Pathway) : isMarked p.headLine = false := by
  simp [isMarked, headLine, List.isPrefixOf]

theorem Node.isMarked_line (n : Node) : isMarked n.line = n.isStart := by
  cases h : n.isStart <;> simp [isMarked, line, h, List.isPrefixOf]

theorem Edge.isMarked_line (e : Edge) : isMarked e.line = false := by
  simp [isMarked, line, List.isPrefixOf]

theorem filter_isMarked_nodeLines (p : Pathway) (n : Node) :
    (p.nodeLines n).filter isMarked = if n.isStart then [n.line] else [] := by
  have hedges : ((p.leaving n).map Edge.line).filter isMarked = [] := by
    rw [List.filter_eq_nil_iff]
    intro l hl
    obtain ⟨e, _, rfl⟩ := List.mem_map.mp hl
    simp [Edge.isMarked_line]
  rw [nodeLines, List.filter_cons, Node.isMarked_line, hedges]

theorem filter_isMarked_flatMap (p : Pathway) (ns : List Node) :
    (ns.flatMap p.nodeLines).filter isMarked = (ns.filter (·.isStart)).map Node.line := by
  induction ns with
  | nil => rfl
  | cons n ns ih =>
    rw [List.flatMap_cons, List.filter_append, filter_isMarked_nodeLines, ih, List.filter_cons]
    cases n.isStart <;> rfl

theorem filter_isMarked_outlineLines (p : Pathway) :
    p.outlineLines.filter isMarked = (p.outputNodes.filter (·.isStart)).map Node.line := by
  rw [outlineLines_eq, List.filter_cons, isMarked_headLine, filter_isMarked_flatMap]
  rfl

end Pathway

end Callflow
