import Callflow.Text.LowerCase

/-!
Lower case and spaces. A space stays what it is, no other character becomes one, and a capital sigma
does not look past it for cased letters. So what stands between the spaces of a text is lowered each
by itself.
-/

namespace Callflow.Text

theorem lowerChar_space : lowerChar ' ' = [' '] := by decide

theorem lowerChar_ne_nil (c : Char) : lowerChar c ≠ [] := by
  unfold lowerChar
  split
  · exact List.cons_ne_nil _ _
  · split <;> exact List.cons_ne_nil _ _

theorem space_lt_lowered : ∀ r ∈ capitalRuns, 32 < (r.first : Int) + r.distance := by
  decide +kernel

theorem ofNat_ne_space {n : Nat} (h : 32 < n) : Char.ofNat n ≠ ' ' := by
  by_cases hvalid : n.isValidChar
  · rw [Char.ofNat, dif_pos hvalid]
    intro he
    have hn : n = 32 := congrArg Char.toNat he
    omega
  · rw [Char.ofNat, dif_neg hvalid]
    decide

theorem space_not_mem_lowerChar {c : Char} (h : c ≠ ' ') : ' ' ∉ lowerChar c := by
  unfold lowerChar
  split
  · decide
  · split
    · rename_i r hr
      have hfirst : r.first ≤ c.toNat := by
        have hcontains := List.find?_some hr
        simp only [CapitalRun.contains, Bool.and_eq_true, decide_eq_true_eq] at hcontains
        exact hcontains.1.1
      have hlowered := space_lt_lowered r (List.mem_of_find?_eq_some hr)
      rw [List.mem_singleton]
      exact (ofNat_ne_space (by omega)).symm
    · rw [List.mem_singleton]
      exact h.symm

theorem meetsCased_append_space (xs ys : List Char) :
    meetsCased (xs ++ ' ' :: ys) = meetsCased xs := by
  have hspace : (' ' :: ys).dropWhile isCaseIgnorable = ' ' :: ys := by
    have hnot : isCaseIgnorable ' ' = false := by decide
    simp [hnot]
  have hcased : isCased ' ' = false := by decide
  unfold meetsCased
  rw [List.dropWhile_append, hspace]
  cases h : xs.dropWhile isCaseIgnorable with
  | nil => simp [hcased]
  | cons c rest => rfl

variable {cs : List Char}

theorem lowerFrom_append_before (before behind cs : List Char) :
    lowerFrom (before ++ ' ' :: behind) cs = lowerFrom before cs := by
  induction cs generalizing before with
  | nil => rfl
  | cons c cs ih =>
    rw [lowerFrom, lowerFrom, meetsCased_append_space, ← List.cons_append, ih]

theorem lowerFrom_append_space (before xs ys : List Char) :
    lowerFrom before (xs ++ ' ' :: ys) = lowerFrom before xs ++ ' ' :: lowerChars ys := by
  induction xs generalizing before with
  | nil =>
    have hys : lowerFrom (' ' :: before) ys = lowerChars ys := lowerFrom_append_before [] before ys
    simp [lowerFrom, lowerChar_space, hys]
  | cons c xs ih =>
    rw [List.cons_append, lowerFrom, lowerFrom, meetsCased_append_space, ih, List.append_assoc]

theorem lowerChars_append_space (xs ys : List Char) :
    lowerChars (xs ++ ' ' :: ys) = lowerChars xs ++ ' ' :: lowerChars ys :=
  lowerFrom_append_space [] xs ys

theorem space_not_mem_lowerFrom (before : List Char) (h : ' ' ∉ cs) :
    ' ' ∉ lowerFrom before cs := by
  induction cs generalizing before with
  | nil => exact h
  | cons c cs ih =>
    rw [List.mem_cons, not_or] at h
    rw [lowerFrom, List.mem_append, not_or]
    refine ⟨?_, ih (c :: before) h.2⟩
    split
    · split <;> decide
    · exact space_not_mem_lowerChar (Ne.symm h.1)

theorem space_not_mem_lowerChars (h : ' ' ∉ cs) : ' ' ∉ lowerChars cs :=
  space_not_mem_lowerFrom [] h

theorem length_lowerFrom (before cs : List Char) :
    (lowerFrom before cs).length = (cs.flatMap lowerChar).length := by
  induction cs generalizing before with
  | nil => rfl
  | cons c cs ih =>
    rw [lowerFrom, List.flatMap_cons, List.length_append, List.length_append, ih]
    split
    · rename_i hsigma
      have hone : (lowerChar 'Σ').length = 1 := by decide
      rw [hsigma, hone]
      split <;> rfl
    · rfl

theorem length_lowerChars (cs : List Char) :
    (lowerChars cs).length = (cs.flatMap lowerChar).length := length_lowerFrom [] cs

theorem lowerChars_eq_nil_iff : lowerChars cs = [] ↔ cs = [] := by
  rw [← List.length_eq_zero_iff, length_lowerChars, List.length_eq_zero_iff]
  cases cs with
  | nil => simp
  | cons c cs => simp [lowerChar_ne_nil c]

theorem lowerChars_intercalate (ws : List (List Char)) :
    lowerChars (List.intercalate [' '] ws) = List.intercalate [' '] (ws.map lowerChars) := by
  induction ws with
  | nil => rfl
  | cons w ws ih =>
    cases ws with
    | nil => simp
    | cons v ws =>
      rw [List.map_cons, List.map_cons, List.intercalate_cons_cons, List.intercalate_cons_cons,
        ← List.map_cons, ← ih, List.append_assoc, List.append_assoc]
      exact lowerChars_append_space w _

theorem not_mem_of_mem_splitOn {α : Type} [DecidableEq α] {x : α} {xs part : List α}
    (h : part ∈ xs.splitOn x) : x ∉ part := by
  induction xs generalizing part with
  | nil =>
    rw [List.splitOn_nil, List.mem_singleton] at h
    simp [h]
  | cons y xs ih =>
    rw [List.splitOn_cons_eq_if_modifyHead] at h
    split at h
    · rcases List.mem_cons.mp h with rfl | h
      · exact List.not_mem_nil
      · exact ih h
    · rename_i hne
      obtain ⟨first, rest, he⟩ := List.exists_cons_of_ne_nil (List.splitOn_ne_nil x xs)
      rw [he] at h ih
      rcases List.mem_cons.mp h with rfl | h
      · rw [List.mem_cons, not_or]
        exact ⟨fun hxy => hne (by simp [hxy]), ih List.mem_cons_self⟩
      · exact ih (List.mem_cons_of_mem first h)

/-- The parts of a text between its spaces are lowered each by itself. -/
theorem splitOn_lowerChars (cs : List Char) :
    (lowerChars cs).splitOn ' ' = (cs.splitOn ' ').map lowerChars := by
  have hparts : ∀ part ∈ (cs.splitOn ' ').map lowerChars, ' ' ∉ part := by
    intro part hpart
    obtain ⟨raw, hraw, rfl⟩ := List.mem_map.mp hpart
    exact space_not_mem_lowerChars (not_mem_of_mem_splitOn hraw)
  have hne : (cs.splitOn ' ').map lowerChars ≠ [] := by simp [List.splitOn_ne_nil]
  calc (lowerChars cs).splitOn ' '
      = (lowerChars (List.intercalate [' '] (cs.splitOn ' '))).splitOn ' ' := by
        rw [List.intercalate_splitOn]
    _ = (List.intercalate [' '] ((cs.splitOn ' ').map lowerChars)).splitOn ' ' := by
        rw [lowerChars_intercalate]
    _ = (cs.splitOn ' ').map lowerChars := List.splitOn_intercalate ' ' hparts hne

end Callflow.Text
