import Callflow.Proofs.ConditionGrammar

/-!
Half-filled conditions. Where `<=` or `>=` stands without a value a comparison is still read: the
operator is split, and its second half is taken for the value. Nothing else splits an operator.
-/

namespace Callflow

open Text

namespace Condition

variable {cs opening closing after blank value : List Char} {found : Condition}
  {short long : Operator}

/-- A condition whose value is missing stands in a text behind the characters `before`. -/
def HalfFilledBehind (before text : List Char) (variableName : String) (op : Operator) : Prop :=
  ∃ opening blank after, text = before ++ (opening ++ (op.token.toList ++ (blank ++ ')' :: after))) ∧
    IsOpening variableName.toList opening ∧ AreBlank blank

/-- The condition that counts has `<` or `>` for its operator, and an equality sign stands directly
behind it. -/
def IsSplit (text : List Char) (found : Condition) : Prop :=
  (found.operator = .lessThan ∨ found.operator = .greaterThan) ∧
    ∃ before rest opening closing after, IsFirst before text found ∧ text = before ++ rest ∧
      IsReading found rest opening closing after ∧ closing.head? = some '='

theorem exists_longer_iff : (∃ long : Operator, long.token = short.token ++ "=") ↔
    short = .lessThan ∨ short = .greaterThan := by
  constructor
  · rintro ⟨long, hlong⟩
    revert hlong
    cases short <;> cases long <;> decide
  · rintro (rfl | rfl)
    · exact ⟨.lessThanOrEqual, rfl⟩
    · exact ⟨.greaterThanOrEqual, rfl⟩

theorem length_of_longer (h : long.token = short.token ++ "=") :
    short.token.length < long.token.length := by
  rw [h, String.length_append]
  exact Nat.lt_succ_self _

theorem Compares.of_longer (h : Compares (short.token.toList ++ cs) long value)
    (hlonger : short.token.length < long.token.length) :
    cs.head? = some '=' ∧ long.token = short.token ++ "=" := by
  obtain ⟨closing, after, hcs, _⟩ := h
  have hprefix : short.token.toList <+: long.token.toList := by
    refine List.prefix_of_prefix_length_le (List.prefix_append _ cs) ?_ ?_
    · rw [hcs]
      exact List.prefix_append _ _
    · rw [String.length_toList, String.length_toList]
      exact Nat.le_of_lt hlonger
  have hlong : long.token = short.token ++ "=" := by
    revert hprefix hlonger
    cases short <;> cases long <;> decide
  rw [hlong, String.toList_append, List.append_assoc, List.append_cancel_left_eq] at hcs
  exact ⟨by rw [hcs]; rfl, hlong⟩

theorem readValue?_missing (hblank : AreBlank blank) (after : List Char) :
    readValue? (blank ++ ')' :: after) = none := by
  have hskip : skipBlank (blank ++ ')' :: after) = ')' :: after :=
    skipBlank_append hblank (by simp [isBlankChar])
  simp [readValue?, hskip, isValueChar]

theorem isClosing_sign (hblank : AreBlank blank) :
    IsClosing ['='] ([] ++ ['='] ++ blank ++ [')']) := by
  have hvalue : IsValue ['='] := ⟨by simp, by simp [isBlankChar]⟩
  exact .intro areBlank_nil hvalue hblank

theorem halfFilled_eq (hlong : long.token = short.token ++ "=") (blank after : List Char) :
    long.token.toList ++ (blank ++ ')' :: after) =
      short.token.toList ++ (([] ++ ['='] ++ blank ++ [')']) ++ after) := by
  simp [hlong]

theorem readComparison?_halfFilled (hlong : long.token = short.token ++ "=") (hblank : AreBlank blank)
    (after : List Char) :
    readComparison? (long.token.toList ++ (blank ++ ')' :: after)) = some (short, ['=']) := by
  have hcs := halfFilled_eq hlong blank after
  refine readComparison?_eq_some_iff.mpr ⟨⟨_, after, hcs, isClosing_sign hblank⟩, ?_⟩
  intro other value' hother
  -- Only the longer operator could be read instead, but behind it there is no value.
  refine Nat.le_of_not_lt fun hlonger => ?_
  have hsame : other = long := by
    rw [hcs] at hother
    exact Operator.token_inj ((hother.of_longer hlonger).2.trans hlong.symm)
  subst hsame
  obtain ⟨rest, hrest, hread⟩ := compares_iff.mp hother
  rw [after?_eq_some_iff, List.append_cancel_left_eq] at hrest
  rw [← hrest, readValue?_missing hblank] at hread
  cases hread

theorem IsReading.halfFilled (h : IsReading found cs opening closing after)
    (hlong : long.token = found.operator.token ++ "=") (hhead : closing.head? = some '=')
    (hlongest : ∀ other opening closing after, IsReading other cs opening closing after →
      other.operator.token.length ≤ found.operator.token.length) :
    found.value = "=" ∧ ∃ blank, AreBlank blank ∧
      cs = opening ++ (long.token.toList ++ (blank ++ ')' :: after)) := by
  obtain ⟨hopening, @⟨b₄, b₅, hb₄, hvalue, hb₅⟩, hcs⟩ := h
  have hnil : b₄ = [] := by
    cases b₄ with
    | nil => rfl
    | cons b b₄ =>
      obtain rfl : b = '=' := by simpa using hhead
      exact absurd (hb₄ '=' List.mem_cons_self) (by decide)
  subst hnil
  obtain ⟨v, rest, hv⟩ := List.exists_cons_of_ne_nil hvalue.ne_nil
  obtain rfl : v = '=' := by simpa [hv] using hhead
  cases rest with
  | nil => exact ⟨String.toList_inj.mp hv, b₅, hb₅, by simp [hcs, hlong, hv]⟩
  | cons c rest =>
    -- A value behind the equality sign would have been read with the longer operator.
    have hvalue' : IsValue (c :: rest) :=
      ⟨by simp, fun d hd => hvalue.chars d (by rw [hv]; exact List.mem_cons_of_mem _ hd)⟩
    have hcompares : Compares
        (found.operator.token.toList ++ ([] ++ found.value.toList ++ b₅ ++ [')'] ++ after)) long
        (c :: rest) :=
      ⟨_, after, by simp [hlong, hv], .intro hb₄ hvalue' hb₅⟩
    obtain ⟨closing, after', hother⟩ := isReading_of_compares hopening hcompares
    rw [← hcs] at hother
    exact absurd (hlongest _ _ _ _ hother) (Nat.not_le_of_lt (length_of_longer hlong))

theorem HalfFilledBehind.isSplit {before : List Char} {text : String}
    (h : HalfFilledBehind before text.toList found.variableName long)
    (hlong : long.token = found.operator.token ++ "=") (hvalue : found.value = "=")
    (hleftmost : ∀ before' other, StandsBehind before' text.toList other →
      before.length ≤ before'.length) :
    read? text = some found ∧ IsSplit text.toList found := by
  obtain ⟨opening, blank, after, hsplit, hopening, hblank⟩ := h
  have hclosing : IsClosing found.value.toList ([] ++ ['='] ++ blank ++ [')']) := by
    rw [hvalue]
    exact isClosing_sign hblank
  have hreading : IsReading found (opening ++ (long.token.toList ++ (blank ++ ')' :: after)))
      opening ([] ++ ['='] ++ blank ++ [')']) after :=
    ⟨hopening, hclosing, by rw [halfFilled_eq hlong]⟩
  have hread : readHere? (opening ++ (long.token.toList ++ (blank ++ ')' :: after))) =
      some found := by
    rw [hreading.readHere?, ← halfFilled_eq hlong, readComparison?_halfFilled hlong hblank]
    exact congrArg (fun v => some (Condition.mk found.variableName found.operator v)) hvalue.symm
  have hfirst := isFirst_iff.mpr ⟨_, hsplit, hread, hleftmost⟩
  refine ⟨read?_eq_some_iff.mpr ⟨before, hfirst⟩, exists_longer_iff.mp ⟨long, hlong⟩, ?_⟩
  exact ⟨before, _, opening, _, after, hfirst, hsplit, hreading, rfl⟩

/-- An operator is split if and only if the leftmost condition that can be read is half-filled. What
is read for the value is then the second half of the operator. -/
theorem read?_isSplit_iff (text : String) (found : Condition) :
    (read? text = some found ∧ IsSplit text.toList found) ↔
      found.value = "=" ∧ ∃ long before, long.token = found.operator.token ++ "=" ∧
        HalfFilledBehind before text.toList found.variableName long ∧
        ∀ before' other, StandsBehind before' text.toList other →
          before.length ≤ before'.length := by
  constructor
  · rintro ⟨_, hshort, before, rest, opening, closing, after, hfirst, hsplit, hreading, hhead⟩
    obtain ⟨long, hlong⟩ := exists_longer_iff.mpr hshort
    obtain ⟨hvalue, blank, hblank, hrest⟩ := hreading.halfFilled hlong hhead
      fun other opening closing after hother =>
        hfirst.longest other ⟨rest, opening, closing, after, hsplit, hother⟩
    refine ⟨hvalue, long, before, hlong, ?_, hfirst.leftmost⟩
    exact ⟨opening, blank, after, by rw [hsplit, hrest], hreading.isOpening, hblank⟩
  · rintro ⟨hvalue, long, before, hlong, hhalf, hleftmost⟩
    exact hhalf.isSplit hlong hvalue hleftmost

/-- A condition whose value has not been filled in yet is read all the same. -/
theorem exists_halfFilled_read : ∃ (text : String) (found : Condition),
    HalfFilledBehind [] text.toList found.variableName .lessThanOrEqual ∧
      read? text = some found ∧ IsSplit text.toList found := by
  have hname : IsName "Age".toList :=
    ⟨⟨'A', rfl, isNameStart_iff.mp rfl⟩,
      fun c hc => isNameChar_iff.mp (List.all_eq_true.mp (by decide) c hc)⟩
  have hspace : AreBlank [' '] := List.all_eq_true.mp (by decide)
  have hhalf : HalfFilledBehind [] "if (Age <= )".toList "Age" .lessThanOrEqual :=
    ⟨_, [' '], [], rfl, .intro hspace areBlank_nil hname hspace, hspace⟩
  exact ⟨"if (Age <= )", ⟨"Age", .lessThan, "="⟩, hhalf,
    hhalf.isSplit rfl rfl fun _ _ _ => Nat.zero_le _⟩

end Condition

end Callflow
