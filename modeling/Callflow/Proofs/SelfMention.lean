import Callflow.Proofs.WholeWords
import Mathlib.Data.List.Infix

/-!
Which terms are found in themselves. A text is taken apart at all that is neither a letter nor a
digit, a term only at its spaces, so a term is found in a text that is made of it, with gaps on
either side, if and only if it is a phrase once it is trimmed: words with one space between them.
-/

namespace Callflow.Greeting

open Text

variable {cs : List Char} {us : List (List Char)}

theorem isAlphanumeric_of_isBlankChar {c : Char} (h : isBlankChar c = true) :
    isAlphanumeric c = false := by
  have hblanks : ∀ n ∈ [0x9, 0xA, 0xB, 0xC, 0xD, 0x20, 0x85, 0xA0, 0x1680, 0x2000, 0x2001, 0x2002,
      0x2003, 0x2004, 0x2005, 0x2006, 0x2007, 0x2008, 0x2009, 0x200A, 0x2028, 0x2029, 0x202F, 0x205F,
      0x3000], inRanges alphanumericRanges n = false := by decide +kernel
  refine hblanks c.toNat ?_
  simp only [isBlankChar, Bool.or_eq_true, Bool.and_eq_true, decide_eq_true_eq, beq_iff_eq] at h
  simp only [List.mem_cons, List.not_mem_nil, or_false]
  omega

theorem isGap_of_isBlank (h : ∀ c ∈ cs, isBlankChar c = true) : IsGap cs :=
  isGap_iff.mpr fun c hc => isAlphanumeric_of_isBlankChar (h c hc)

theorem exists_trimChars_eq (cs : List Char) :
    ∃ left right, IsGap left ∧ IsGap right ∧ cs = left ++ trimChars cs ++ right := by
  obtain ⟨left, hleft, hcs⟩ := exists_run isBlankChar cs
  obtain ⟨right, hright, hrest⟩ := exists_run isBlankChar (cs.dropWhile isBlankChar).reverse
  refine ⟨left, right.reverse, isGap_of_isBlank hleft, ?_, ?_⟩
  · exact isGap_of_isBlank fun c hc => hright c (List.mem_reverse.mp hc)
  · have htrimmed := congrArg List.reverse hrest
    rw [List.reverse_reverse, List.reverse_append] at htrimmed
    rw [List.append_assoc, trimChars, ← htrimmed, ← hcs]

theorem runs_around {before behind : List Char} (hbefore : IsGap before) (hbehind : IsGap behind)
    (cs : List Char) : runs (before ++ cs ++ behind) = runs (trimChars cs) := by
  obtain ⟨left, right, hleft, hright, hcs⟩ := exists_trimChars_eq cs
  rw [runs_between hbefore hbehind, hcs, runs_between hleft hright, ← hcs]

theorem IsPhrase.runs_eq (h : IsPhrase cs us) : runs cs = us := by
  obtain ⟨hne, hwords, rfl⟩ := h
  induction us with
  | nil => exact absurd rfl hne
  | cons u us ih =>
    obtain ⟨hu, hus⟩ := List.forall_mem_cons.mp hwords
    cases us with
    | nil =>
      have hlast : runs (u ++ []) = u :: runs [] := runs_append_of_isWord hu (by simp)
      simpa [runs] using hlast
    | cons v us =>
      have hend : ∀ c ∈ ([' '] ++ List.intercalate [' '] (v :: us)).head?,
          isAlphanumeric c = false := by
        intro c hc
        obtain rfl : ' ' = c := Option.some.inj hc
        exact isAlphanumeric_space
      rw [List.intercalate_cons_cons, List.append_assoc, runs_append_of_isWord hu hend,
        List.singleton_append, runs_cons_of_false isAlphanumeric_space,
        ih (List.cons_ne_nil v us) hus]

theorem IsPhrase.ne_empty (h : IsPhrase cs us) : cs ≠ [] := by
  rintro rfl
  exact h.ne_nil (h.runs_eq.symm.trans rfl)

theorem flatten_splitOn {α : Type} [DecidableEq α] (x : α) (xs : List α) :
    (xs.splitOn x).flatten = xs.filter (· != x) := by
  induction xs with
  | nil => simp
  | cons y xs ih =>
    rw [List.splitOn_cons_eq_if_modifyHead]
    split
    · rename_i heq
      simp [ih, eq_of_beq heq]
    · rename_i hne
      obtain ⟨first, rest, he⟩ := List.exists_cons_of_ne_nil (List.splitOn_ne_nil x xs)
      rw [he, List.flatten_cons] at ih
      rw [he, List.modifyHead_cons, List.flatten_cons, List.cons_append, ih]
      simp [bne, hne]

theorem length_flatten_map_lowerChars (parts : List (List Char)) :
    (parts.map lowerChars).flatten.length = (parts.flatten.flatMap lowerChar).length := by
  induction parts with
  | nil => rfl
  | cons part parts ih =>
    rw [List.map_cons, List.flatten_cons, List.flatten_cons, List.flatMap_append,
      List.length_append, List.length_append, ih, length_lowerChars]

/-- If the larger of two classes of items takes no more room, all that is in it is in the smaller. -/
theorem forall_of_length_flatMap_le {α β : Type} {f : α → List β} {p q : α → Bool} {as : List α}
    (hf : ∀ a, f a ≠ []) (hpq : ∀ a, p a = true → q a = true)
    (h : ((as.filter q).flatMap f).length ≤ ((as.filter p).flatMap f).length) :
    ∀ a ∈ as, q a = true → p a = true := by
  intro a ha hq
  by_contra hp
  have hsmaller : (as.filter q).filter p = as.filter p := by
    rw [List.filter_filter]
    refine List.filter_congr fun b _ => ?_
    cases hb : p b with
    | false => rfl
    | true => simp [hpq b hb]
  have hparts := ((List.filter_append_perm p (as.filter q)).flatMap_right f).length_eq
  rw [List.flatMap_append, List.length_append, hsmaller] at hparts
  -- An item of the larger class alone would take room of its own.
  have hmem : a ∈ (as.filter q).filter (fun b => !p b) :=
    List.mem_filter.mpr ⟨List.mem_filter.mpr ⟨ha, hq⟩, by simp [hp]⟩
  have hpos : 0 < (((as.filter q).filter fun b => !p b).flatMap f).length := by
    obtain ⟨b, hb⟩ := List.exists_mem_of_ne_nil _ (hf a)
    exact List.length_pos_of_mem (List.mem_flatMap.mpr ⟨a, hmem, hb⟩)
  omega

theorem isAlphanumeric_of_block (h : (cs.splitOn ' ').map lowerChars <:+: (runs cs).map lowerChars) :
    ∀ c ∈ cs, c ≠ ' ' → isAlphanumeric c = true := by
  have hroom := h.flatten.length_le
  rw [length_flatten_map_lowerChars, length_flatten_map_lowerChars, flatten_splitOn,
    (hasWords_runs cs).flatten_eq] at hroom
  have hspace (c : Char) (hc : isAlphanumeric c = true) : (c != ' ') = true :=
    bne_iff_ne.mpr (ne_space_of_isAlphanumeric hc)
  intro c hmem hne
  exact forall_of_length_flatMap_le lowerChar_ne_nil hspace hroom c hmem (bne_iff_ne.mpr hne)

theorem isPhrase_of_block (h : (cs.splitOn ' ').map lowerChars <:+: (runs cs).map lowerChars) :
    IsPhrase cs (cs.splitOn ' ') where
  ne_nil := List.splitOn_ne_nil ' ' cs
  words := by
    intro part hpart
    obtain ⟨w, hw, he⟩ := List.mem_map.mp (h.subset (List.mem_map_of_mem hpart))
    refine ⟨?_, List.all_eq_true.mpr ?_⟩
    · -- The part is in lower case a word, and no word is empty in lower case.
      rintro rfl
      exact ((hasWords_runs cs).isWord w hw).ne_nil (lowerChars_eq_nil_iff.mp he)
    · intro c hc
      have hmem : c ∈ cs := by
        have hflat : c ∈ (cs.splitOn ' ').flatten := List.mem_flatten.mpr ⟨part, hpart, hc⟩
        rw [flatten_splitOn] at hflat
        exact List.mem_of_mem_filter hflat
      have hne : c ≠ ' ' := fun hspace => not_mem_of_mem_splitOn hpart (hspace ▸ hc)
      exact isAlphanumeric_of_block h c hmem hne
  eq := (List.intercalate_splitOn ' ').symm

/-- A term is found in a text that is made of it if and only if, trimmed, it is a phrase. -/
theorem mentions_around_iff {before behind : String} (term : String)
    (hbefore : IsGap before.toList) (hbehind : IsGap behind.toList) :
    mentions (before ++ term ++ behind) [term] = true ↔
      ∃ us, IsPhrase (trimChars term.toList) us := by
  have hwords : words (before ++ term ++ behind) =
      (runs (trimChars term.toList)).map lowerChars := by
    rw [words, String.toList_append, String.toList_append, runs_around hbefore hbehind]
  rw [mentions_iff, hwords]
  constructor
  · rintro ⟨found, hfound, _, hblock⟩
    obtain rfl := List.mem_singleton.mp hfound
    exact ⟨_, isPhrase_of_block hblock⟩
  · rintro ⟨us, hus⟩
    refine ⟨term, List.mem_singleton_self term, ?_, ?_⟩
    · rw [← Bool.not_eq_true, ← trimChars_eq_nil_iff]
      exact hus.ne_empty
    · rw [hus.loweredParts_eq, hus.runs_eq]

theorem mentions_around_iff_quoted :
    IsGap "« ".toList ∧ IsGap "\n!»".toList ∧
      (mentions ("« " ++ " Καλό απόγευμα" ++ "\n!»") [" Καλό απόγευμα"] = true ↔
        ∃ us, IsPhrase (trimChars " Καλό απόγευμα".toList) us) := by
  have hbefore : IsGap "« ".toList := by decide
  have hbehind : IsGap "\n!»".toList := by decide
  exact ⟨hbefore, hbehind, mentions_around_iff " Καλό απόγευμα" hbefore hbehind⟩

/-- The text is taken apart at the hyphen, the term is not. -/
theorem exists_not_mentions_itself :
    ∃ term : String, term.toList.any isAlphanumeric = true ∧ mentions term [term] = false :=
  ⟨"good-morning", by decide, by decide⟩

end Callflow.Greeting
