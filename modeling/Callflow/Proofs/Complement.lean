import Callflow.Proofs.HalfFilled
import Mathlib.Logic.Basic
import Mathlib.Order.Lattice

/-!
The two branches of a condition. Put between `if (` and `)`, the label of either branch is read as a
condition again: that of the true branch as the condition itself, that of the false branch as the one
that holds exactly when the first does not. Only a value that begins with an equality sign, which would
lengthen the operator, stands in the way of it.
-/

namespace Callflow

open Text

def Operator.Holds {α : Type*} [LinearOrder α] : Operator → α → α → Prop
  | .lessThan, a, b => a < b
  | .lessThanOrEqual, a, b => a ≤ b
  | .greaterThan, a, b => a > b
  | .greaterThanOrEqual, a, b => a ≥ b
  | .equal, a, b => a = b
  | .notEqual, a, b => a ≠ b

theorem Operator.holds_inverse {α : Type*} [LinearOrder α] (op : Operator) (a b : α) :
    op.inverse.Holds a b ↔ ¬ op.Holds a b := by
  cases op <;> simp [inverse, Holds]

@[simp] theorem Operator.inverse_inverse (op : Operator) : op.inverse.inverse = op := by
  cases op <;> rfl

namespace Condition

variable {name value : List Char} {found : Condition}

theorem isOpening_plain (h : IsName name) : IsOpening name ("if (".toList ++ name) := by
  have hspace : AreBlank [' '] := List.all_eq_true.mp (by decide)
  simpa using IsOpening.intro hspace areBlank_nil h areBlank_nil

theorem isClosing_plain (h : IsValue value) : IsClosing value (value ++ [')']) := by
  simpa using IsClosing.intro areBlank_nil h areBlank_nil

/-- Written without blanks, a condition is read as it is unless its value can lengthen the operator. -/
theorem read?_plain (hname : IsName found.variableName.toList) (hvalue : IsValue found.value.toList)
    (hhead : found.value.toList.head? ≠ some '=') :
    read? ("if (" ++ (found.variableName ++ found.operator.token ++ found.value) ++ ")") =
      some found := by
  let opening := "if (".toList ++ found.variableName.toList
  let closing := found.value.toList ++ [')']
  let cs := opening ++ (found.operator.token.toList ++ (closing ++ []))
  have hreading : IsReading found cs opening closing [] :=
    ⟨isOpening_plain hname, isClosing_plain hvalue, rfl⟩
  have hlongest : readComparison? (found.operator.token.toList ++ (closing ++ [])) =
      some (found.operator, found.value.toList) := by
    refine readComparison?_eq_some_iff.mpr ⟨hreading.compares, ?_⟩
    intro other value' hother
    refine Nat.le_of_not_lt fun hlonger => hhead ?_
    obtain ⟨v, rest, hv⟩ := List.exists_cons_of_ne_nil hvalue.ne_nil
    simpa [closing, hv] using (hother.of_longer hlonger).1
  have hread : readHere? cs = some found := by
    rw [hreading.readHere?, hlongest, Option.map_some, String.ofList_toList]
  refine read?_eq_some_iff.mpr ⟨[], isFirst_iff.mpr ⟨cs, ?_, hread, fun _ _ _ => Nat.zero_le _⟩⟩
  simp [cs, opening, closing]

/-- The label of the true branch is read as the condition itself. That of the false branch is read as
one that compares the same variable with the same value, has the same two labels the other way round,
and holds exactly when the first does not. -/
theorem read?_labels {text : String} {found : Condition} (h : read? text = some found)
    (hvalue : found.value.toList.head? ≠ some '=') :
    read? ("if (" ++ found.trueLabel ++ ")") = some found ∧
      ∃ other, read? ("if (" ++ found.falseLabel ++ ")") = some other ∧
        other.variableName = found.variableName ∧ other.value = found.value ∧
        invertToken? found.operator.token = some other.operator.token ∧
        other.trueLabel = found.falseLabel ∧ other.falseLabel = found.trueLabel ∧
        ∀ (α : Type*) [LinearOrder α] (a b : α),
          Xor (found.operator.Holds a b) (other.operator.Holds a b) := by
  obtain ⟨hname, hchars⟩ := parts_of_read? h
  let other : Condition := ⟨found.variableName, found.operator.inverse, found.value⟩
  have htrue : other.trueLabel = found.falseLabel := by rw [falseLabel_eq, trueLabel_eq]
  have hfalse : other.falseLabel = found.trueLabel := by
    rw [falseLabel_eq, trueLabel_eq, Operator.inverse_inverse]
  refine ⟨?_, other, ?_, rfl, rfl, invertToken?_token found.operator, htrue, hfalse, ?_⟩
  · rw [trueLabel_eq]
    exact read?_plain hname hchars hvalue
  · rw [← htrue, trueLabel_eq]
    exact @read?_plain other hname hchars hvalue
  · intro α _ a b
    rw [xor_iff_iff_not, Operator.holds_inverse, not_not]

theorem read?_labels_crowded :
    read? "Check: if ( Zip > <=9> ) and if (Age < 3)" = some ⟨"Zip", .greaterThan, "<=9>"⟩ ∧
      "<=9>".toList.head? ≠ some '=' ∧ read? "if (Zip><=9>)" = some ⟨"Zip", .greaterThan, "<=9>"⟩ ∧
      ∃ other, read? "if (Zip<=<=9>)" = some other ∧ other.falseLabel = "Zip><=9>" ∧
        ∀ a b : Nat, Xor (a > b) (other.operator.Holds a b) := by
  have hread : read? "Check: if ( Zip > <=9> ) and if (Age < 3)" =
      some ⟨"Zip", .greaterThan, "<=9>"⟩ := by decide
  have hvalue : "<=9>".toList.head? ≠ some '=' := by decide
  obtain ⟨htrue, other, hfalse, _, _, _, _, hback, hxor⟩ := read?_labels.{0} hread hvalue
  exact ⟨hread, hvalue, htrue, other, hfalse, hback, hxor Nat⟩

end Condition

end Callflow
