import Callflow.Proofs.ConditionGrammar
import Mathlib.Data.List.DropRight

/-!
Labels of edges: texts that are not empty and have no blank at either end. A trimmed text is one,
and so is what is put together of the parts of a condition, of which no character is blank.
-/

namespace Callflow

open Text

/-- A text that can label an edge: it is not empty, and no blank stands at either end of it. -/
structure Text.IsLabel (s : String) : Prop where
  ne_empty : s ≠ ""
  head : ∀ c ∈ s.toList.head?, isBlankChar c = false
  last : ∀ c ∈ s.toList.getLast?, isBlankChar c = false

namespace Text

variable {s t : String} {a b : Option String}

theorem isLabel_of_any (hne : s ≠ "") (h : s.toList.any isBlankChar = false) : IsLabel s where
  ne_empty := hne
  head c hc := by simpa using List.any_eq_false.mp h c (List.mem_of_head? hc)
  last c hc := by simpa using List.any_eq_false.mp h c (List.mem_of_getLast? hc)

theorem isBlank_append_of_left (h : isBlank s = false) (t : String) : isBlank (s ++ t) = false := by
  rw [isBlank] at h
  simp [isBlank, h]

theorem toList_trim (s : String) :
    (trim s).toList = (s.toList.dropWhile isBlankChar).rdropWhile isBlankChar :=
  String.toList_ofList

theorem trim_eq_empty_iff : trim s = "" ↔ isBlank s = true := by
  rw [← String.toList_inj, toList_trim, String.toList_empty, isBlank, List.all_eq_true,
    ← List.dropWhile_eq_nil_iff]
  constructor
  · intro hnil
    cases hleft : s.toList.dropWhile isBlankChar with
    | nil => rfl
    | cons c left =>
      have hblank := List.rdropWhile_eq_nil_iff.mp hnil c (by rw [hleft]; exact List.mem_cons_self)
      rw [head_dropWhile isBlankChar s.toList c (by rw [hleft]; rfl)] at hblank
      cases hblank
  · intro hnil
    rw [hnil]
    rfl

theorem isLabel_trim (h : isBlank s = false) : IsLabel (trim s) := by
  have hempty : trim s ≠ "" := by
    intro hempty
    rw [trim_eq_empty_iff.mp hempty] at h
    cases h
  have hne : (s.toList.dropWhile isBlankChar).rdropWhile isBlankChar ≠ [] := by
    rw [← toList_trim]
    exact fun hnil => hempty (String.toList_inj.mp hnil)
  refine ⟨hempty, ?_, ?_⟩
  · intro d hd
    obtain ⟨right, hright⟩ := List.rdropWhile_prefix isBlankChar (l := s.toList.dropWhile isBlankChar)
    apply head_dropWhile isBlankChar s.toList d
    rw [toList_trim] at hd
    rw [← hright, List.head?_append, hd]
    rfl
  · intro d hd
    rw [toList_trim, List.getLast?_eq_getLast_of_ne_nil hne] at hd
    obtain rfl := Option.some.inj hd
    simpa using List.rdropWhile_last_not isBlankChar _ hne

theorem trim_of_isLabel (h : IsLabel s) : trim s = s := by
  have hleft (l : List Char) (hl : ∀ c ∈ l.head?, isBlankChar c = false) :
      l.dropWhile isBlankChar = l := Condition.skipBlank_append Condition.areBlank_nil hl
  have hright : s.toList.reverse.dropWhile isBlankChar = s.toList.reverse := by
    apply hleft
    intro c hc
    rw [List.head?_reverse] at hc
    exact h.last c hc
  rw [trim, trimChars, hleft s.toList h.head, hright, List.reverse_reverse, String.ofList_toList]

theorem isBlank_of_mem_nonBlank? (h : t ∈ nonBlank? a) : isBlank t = false := by
  simpa using (Option.mem_filter_iff.mp h).2

theorem isLabel_of_mem_trimmed? (h : t ∈ trimmed? a) : IsLabel t := by
  obtain ⟨raw, hraw, rfl⟩ := Option.map_eq_some_iff.mp h
  exact isLabel_trim (isBlank_of_mem_nonBlank? hraw)

theorem forall_mem_or {p : String → Prop} (ha : ∀ x ∈ a, p x) (hb : ∀ x ∈ b, p x) :
    ∀ x ∈ a.or b, p x := by
  intro x hx
  rcases Option.or_eq_some_iff.mp hx with hx | ⟨_, hx⟩
  · exact ha x hx
  · exact hb x hx

theorem getD_of_forall_mem {p : String → Prop} (ha : ∀ x ∈ a, p x) (ht : p t) : p (a.getD t) := by
  cases a with
  | some x => exact ha x rfl
  | none => exact ht

end Text

namespace Condition

variable {found : Condition} {text : String}

theorem any_isBlankChar_token (op : Operator) : op.token.toList.any isBlankChar = false := by
  cases op <;> decide

/-- What a condition that was read is made of: a name and a value, neither empty, without blanks. -/
structure IsRead (found : Condition) : Prop where
  name_ne_empty : found.variableName ≠ ""
  name_chars : ∀ c ∈ found.variableName.toList, isNameChar c = true
  value_ne_empty : found.value ≠ ""
  value_chars : ∀ c ∈ found.value.toList, isValueChar c = true

theorem isRead_of_read? (h : read? text = some found) : found.IsRead := by
  obtain ⟨hname, hvalue⟩ := parts_of_read? h
  refine ⟨?_, hname.isNameChar, ?_, hvalue.isValueChar⟩
  · intro hempty
    exact hname.ne_nil (by rw [hempty, String.toList_empty])
  · intro hempty
    exact hvalue.ne_nil (by rw [hempty, String.toList_empty])

theorem IsRead.any_isBlankChar_name (h : found.IsRead) :
    found.variableName.toList.any isBlankChar = false := by
  rw [List.any_eq_false]
  intro c hc
  simp [isBlankChar_of_isNameChar (h.name_chars c hc)]

theorem IsRead.isLabel_name (h : found.IsRead) : IsLabel found.variableName :=
  isLabel_of_any h.name_ne_empty h.any_isBlankChar_name

theorem IsRead.isLabel (h : found.IsRead) (op : Operator) :
    IsLabel (found.variableName ++ op.token ++ found.value) := by
  have hname := h.any_isBlankChar_name
  have hvalue : found.value.toList.any isBlankChar = false := by
    rw [List.any_eq_false]
    intro c hc
    simp [isBlankChar_of_isValueChar (h.value_chars c hc)]
  apply isLabel_of_any
  · intro hempty
    have hnil := congrArg String.toList hempty
    simp only [String.toList_append, String.toList_empty, List.append_eq_nil_iff] at hnil
    exact h.value_ne_empty (String.toList_inj.mp hnil.2)
  · simp [hname, any_isBlankChar_token op, hvalue]

theorem IsRead.isLabel_labelFor (h : found.IsRead) (handle : Option String) :
    IsLabel (found.labelFor handle) := by
  rw [labelFor]
  split
  · exact trueLabel_eq found ▸ h.isLabel found.operator
  · exact falseLabel_eq found ▸ h.isLabel found.operator.inverse

end Condition

end Callflow
