import Callflow.Proofs.Start
import Mathlib.Data.List.Forall2

/-!
The operations on starts, one after the other. What a node has as a start moves together, all else
stays as it is, and of more starts than one only the first is left.
-/

namespace Callflow.Start

def IsCoherent (n : Pathway.Node) : Prop := IsDesignated n ∨ IsPlain n

def besides (n : Pathway.Node) : Pathway.Node :=
  { n with data := { n.data with
      name := ""
      isStart := false
      model := { n.data.model with flags := {} }
      extractVars := none
      extractSettings := none } }

/-- What can be done to the nodes of a pathway. Where there is no node, nothing is. -/
inductive Step where
  | designate (place : Nat) (asked : List Pathway.Variable)
  | clear (place : Nat)
  | enforceSingle
  deriving DecidableEq, Repr

def Step.run (nodes : List Pathway.Node) : Step → List Pathway.Node
  | .designate place asked => nodes.modify place (Start.designate asked)
  | .clear place => nodes.modify place Start.clear
  | .enforceSingle => (Start.enforceSingle nodes).1

def after (nodes : List Pathway.Node) (steps : List Step) : List Pathway.Node :=
  steps.foldl Step.run nodes

/-- Of the starts among nodes only the first is one in the result, which counts the others. -/
structure LeavesFirst (nodes : List Pathway.Node) (result : List Pathway.Node × Nat) : Prop where
  kept : ∀ i n, nodes[i]? = some n →
    n.isStart = false ∨ (∀ m ∈ nodes.take i, m.isStart = false) → result.1[i]? = some n
  cleared : ∀ i n, nodes[i]? = some n → n.isStart = true → (∃ m ∈ nodes.take i, m.isStart = true) →
    ∃ n', result.1[i]? = some n' ∧ IsPlain n'
  count : result.2 = nodes.countP (·.isStart) - 1
  again : enforceSingle result.1 = (result.1, 0)

inductive Changed : Pathway.Node → Pathway.Node → Prop
  | same (n) : Changed n n
  | cleared (n) : Changed n (clear n)
  | designated (asked n) : Changed n (designate asked n)

variable {n n' : Pathway.Node} {nodes : List Pathway.Node}

theorem isPlain_clear (n : Pathway.Node) : IsPlain (clear n) := ⟨rfl, rfl, rfl, rfl⟩

theorem Changed.isCoherent (h : Changed n n') (hn : IsCoherent n) : IsCoherent n' := by
  cases h with
  | same => exact hn
  | cleared => exact .inr (isPlain_clear n)
  | designated asked => exact .inl (isDesignated_designate asked n)

theorem Changed.besides_eq (h : Changed n n') : besides n' = besides n := by
  cases h <;> rfl

theorem forall₂_modify {α : Type} {R : α → α → Prop} {f : α → α} (hrefl : ∀ a, R a a)
    (hf : ∀ a, R a (f a)) (as : List α) (i : Nat) : List.Forall₂ R as (as.modify i f) := by
  induction as generalizing i with
  | nil => simp
  | cons a as ih =>
    cases i with
    | zero => exact .cons (hf a) (List.forall₂_same.mpr fun b _ => hrefl b)
    | succ i => exact .cons (hrefl a) (ih i)

theorem clearStarts_changed (nodes : List Pathway.Node) :
    List.Forall₂ Changed nodes (clearStarts nodes).1 := by
  induction nodes with
  | nil => exact .nil
  | cons n nodes ih =>
    cases h : n.isStart with
    | true =>
      simp only [clearStarts, h, if_true]
      exact .cons (.cleared n) ih
    | false =>
      simp only [clearStarts, h, Bool.false_eq_true, if_false]
      exact .cons (.same n) ih

theorem enforceSingle_changed (nodes : List Pathway.Node) :
    List.Forall₂ Changed nodes (enforceSingle nodes).1 := by
  induction nodes with
  | nil => exact .nil
  | cons n nodes ih =>
    cases h : n.isStart with
    | true =>
      simp only [enforceSingle, h, if_true]
      exact .cons (.same n) (clearStarts_changed nodes)
    | false =>
      simp only [enforceSingle, h, Bool.false_eq_true, if_false]
      exact .cons (.same n) ih

theorem Step.run_changed (nodes : List Pathway.Node) (step : Step) :
    List.Forall₂ Changed nodes (step.run nodes) := by
  cases step with
  | designate place asked => exact forall₂_modify .same (.designated asked) nodes place
  | clear place => exact forall₂_modify .same .cleared nodes place
  | enforceSingle => exact enforceSingle_changed nodes

theorem countP_clearStarts (nodes : List Pathway.Node) :
    (clearStarts nodes).2 = nodes.countP (·.isStart) := by
  induction nodes with
  | nil => rfl
  | cons n nodes ih =>
    cases h : n.isStart <;> simp [clearStarts, h, ih]

theorem countP_enforceSingle (nodes : List Pathway.Node) :
    (enforceSingle nodes).2 = nodes.countP (·.isStart) - 1 := by
  induction nodes with
  | nil => rfl
  | cons n nodes ih =>
    cases h : n.isStart with
    | true => simp [enforceSingle, h, countP_clearStarts]
    | false => simp [enforceSingle, h, ih]

theorem getElem?_clearStarts (nodes : List Pathway.Node) (i : Nat) :
    (clearStarts nodes).1[i]? = nodes[i]?.map fun n => if n.isStart then clear n else n := by
  induction nodes generalizing i with
  | nil => rfl
  | cons n nodes ih =>
    cases h : n.isStart <;> cases i <;> simp [clearStarts, h, ih]

theorem getElem?_enforceSingle (nodes : List Pathway.Node) (i : Nat) :
    (enforceSingle nodes).1[i]? =
      nodes[i]?.map fun n => if n.isStart && (nodes.take i).any (·.isStart) then clear n else n := by
  induction nodes generalizing i with
  | nil => rfl
  | cons n nodes ih =>
    cases i with
    | zero => simp [enforceSingle]
    | succ i =>
      cases h : n.isStart with
      | true => simp [enforceSingle, h, getElem?_clearStarts]
      | false => simp [enforceSingle, h, ih]

theorem isStart_of_mem_clearStarts (h : n ∈ (clearStarts nodes).1) : n.isStart = false := by
  obtain ⟨i, hi⟩ := List.getElem?_of_mem h
  rw [getElem?_clearStarts] at hi
  obtain ⟨m, _, rfl⟩ := Option.map_eq_some_iff.mp hi
  split
  · rfl
  · exact eq_false_of_ne_true ‹_›

theorem enforceSingle_enforceSingle (nodes : List Pathway.Node) :
    enforceSingle (enforceSingle nodes).1 = ((enforceSingle nodes).1, 0) := by
  induction nodes with
  | nil => rfl
  | cons n nodes ih =>
    cases h : n.isStart with
    | true =>
      have hrest := clearStarts_of_plain fun m (hm : m ∈ (clearStarts nodes).1) =>
        isStart_of_mem_clearStarts hm
      simp [enforceSingle, h, hrest]
    | false => simp [enforceSingle, h, ih]

theorem leavesFirst_enforceSingle (nodes : List Pathway.Node) :
    LeavesFirst nodes (enforceSingle nodes) where
  kept i n hn h := by
    rw [getElem?_enforceSingle, hn, Option.map_some]
    rcases h with h | h
    · simp [h]
    · have hany : (nodes.take i).any (·.isStart) = false := by simpa using h
      simp [hany]
  cleared i n hn hstart hearlier := by
    have hany : (nodes.take i).any (·.isStart) = true := List.any_eq_true.mpr hearlier
    refine ⟨clear n, ?_, isPlain_clear n⟩
    rw [getElem?_enforceSingle, hn, Option.map_some, hstart, hany]
    rfl
  count := countP_enforceSingle nodes
  again := enforceSingle_enforceSingle nodes

theorem isCoherent_of_changed {nodes' : List Pathway.Node}
    (hchanged : List.Forall₂ Changed nodes nodes') (h : ∀ n ∈ nodes, IsCoherent n) :
    ∀ n ∈ nodes', IsCoherent n := by
  induction hchanged with
  | nil => exact h
  | cons hn _ ih =>
    rw [List.forall_mem_cons] at h ⊢
    exact ⟨hn.isCoherent h.1, ih h.2⟩

theorem map_besides_of_changed {nodes' : List Pathway.Node}
    (hchanged : List.Forall₂ Changed nodes nodes') : nodes'.map besides = nodes.map besides := by
  induction hchanged with
  | nil => rfl
  | cons hn _ ih => rw [List.map_cons, List.map_cons, hn.besides_eq, ih]

theorem isCoherent_after (h : ∀ n ∈ nodes, IsCoherent n) (steps : List Step) :
    ∀ n ∈ after nodes steps, IsCoherent n := by
  induction steps generalizing nodes with
  | nil => exact h
  | cons step steps ih => exact ih (isCoherent_of_changed (step.run_changed nodes) h)

theorem map_besides_after (nodes : List Pathway.Node) (steps : List Step) :
    (after nodes steps).map besides = nodes.map besides := by
  induction steps generalizing nodes with
  | nil => rfl
  | cons step steps ih =>
    exact (ih (step.run nodes)).trans (map_besides_of_changed (step.run_changed nodes))

structure StaysCoherent (nodes : List Pathway.Node) (steps : List Step) : Prop where
  coherent : ∀ n ∈ after nodes steps, IsCoherent n
  length : (after nodes steps).length = nodes.length
  besides : (after nodes steps).map besides = nodes.map besides
  enforced : ∀ earlier later, steps = earlier ++ .enforceSingle :: later →
    LeavesFirst (after nodes earlier) (enforceSingle (after nodes earlier))

/-- Whatever is done to coherent nodes, they stay coherent. -/
theorem staysCoherent_after (h : ∀ n ∈ nodes, IsCoherent n) (steps : List Step) :
    StaysCoherent nodes steps where
  coherent := isCoherent_after h steps
  length := by
    have hlength := congrArg List.length (map_besides_after nodes steps)
    rwa [List.length_map, List.length_map] at hlength
  besides := map_besides_after nodes steps
  enforced earlier _ _ := leavesFirst_enforceSingle (after nodes earlier)

def pair : List Pathway.Node := [Assembly.greeting {} "g", Assembly.closing {} "e"]

/-- Both are made the start, one is cleared and made the start again, and then one is enforced. -/
def contested : List Step :=
  [.designate 1 [], .designate 0 [], .clear 1, .designate 1 [], .enforceSingle]

theorem staysCoherent_after_contested :
    (∀ n ∈ pair, IsCoherent n) ∧ (after pair contested).map (·.isStart) = [true, false] ∧
      StaysCoherent pair contested := by
  have hpair : ∀ n ∈ pair, IsCoherent n := by
    rw [pair, List.forall_mem_cons, List.forall_mem_singleton]
    exact ⟨.inr (isPlain_greeting {} "g"), .inr (isPlain_closing {} "e")⟩
  exact ⟨hpair, by decide, staysCoherent_after hpair contested⟩

end Callflow.Start
