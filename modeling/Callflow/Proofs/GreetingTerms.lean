import Callflow.Proofs.Compile

/-!
What the greeting terms decide. A start is looked for among the nodes of a pathway only if nothing
in the chart speaks, and then the greeting that was added is the start in any case. So the terms
tell under which rule it is found and nothing else.
-/

namespace Callflow

namespace Compile

variable (s : Settings) (c : Chart)

theorem silentRule_eq_or : silentRule s = .greetingText ∨ silentRule s = .fallback := by
  rw [silentRule]
  exact ite_eq_or_eq _ _ _

/-- What the greeting says is found only if it is among the terms. -/
example : silentRule { synthesizedGreeting := "Hi", greetingTerms := ["hi"] } = .greetingText ∧
    silentRule { synthesizedGreeting := "Hi", greetingTerms := ["hello"] } = .fallback := by
  decide

variable (terms : List String)

theorem cast_nodes_withTerms :
    (cast { s with greetingTerms := terms } c).nodes = (cast s c).nodes := by
  rw [cast_nodes, cast_nodes]
  rfl

theorem routed_withTerms : routed { s with greetingTerms := terms } c = routed s c := by
  rw [routed, routed, context, context, cast_nodes_withTerms, cast_start, cast_start]

theorem connection?_withTerms :
    connection? { s with greetingTerms := terms } c = connection? s c := by
  rw [connection?, connection?, cast_nodes_withTerms, routed_withTerms]

end Compile

open Compile

structure Compiled.AgreeButRule (a b : Compiled) : Prop where
  pathway : a.pathway = b.pathway
  diagnostics : { a.diagnostics with startRule := none } = { b.diagnostics with startRule := none }
  startRule : a.diagnostics.startRule = b.diagnostics.startRule ∨
    a.diagnostics.startRule = some .greetingText ∧ b.diagnostics.startRule = some .fallback ∨
    a.diagnostics.startRule = some .fallback ∧ b.diagnostics.startRule = some .greetingText

/-- Whatever the greeting terms are, the pathway is the same. -/
theorem compile_withTerms (s : Settings) (terms : List String) (m : Metadata) (now : Int)
    (c : Chart) :
    (compile { s with greetingTerms := terms } m now c).AgreeButRule (compile s m now c) where
  pathway := by
    rw [compile_eq, compile_eq, cast_nodes_withTerms, routed_withTerms, connection?_withTerms]
  diagnostics := by
    rw [compile_eq, compile_eq, routed_withTerms, connection?_withTerms]
    rfl
  startRule := by
    rw [compile_startRule, compile_startRule]
    cases chosen? (spoken c) with
    | some p => exact .inl rfl
    | none =>
      rcases silentRule_eq_or s with hgiven | hgiven <;>
        rcases silentRule_eq_or { s with greetingTerms := terms } with hchanged | hchanged <;>
          simp [hgiven, hchanged]

end Callflow
