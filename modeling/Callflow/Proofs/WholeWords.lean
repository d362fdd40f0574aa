import Callflow.Proofs.Label
import Callflow.Proofs.LowerCase
import Callflow.Proofs.Words

/-!
Terms are found in a text as whole words. The words of the text are put on one line with a space
before and behind each, and a term between two spaces is looked for in it. It stands there if and
only if its parts, as its own spaces part them, are words of the text that follow one another: what
is found can neither cut a word nor run over its end.
-/

namespace Callflow.Greeting

open Text

variable {cs part : List Char} {ws us : List (List Char)} {term : String}

theorem occursIn_iff : occursIn part cs = true ↔ part <:+: cs := by
  induction cs with
  | nil => simp [occursIn]
  | cons c cs ih =>
    rw [occursIn, Bool.or_eq_true, List.isPrefixOf_iff_prefix, ih, List.infix_cons_iff]

theorem space_cons_intercalate (hne : ws ≠ []) :
    ' ' :: List.intercalate [' '] ws = ws.flatMap (' ' :: ·) := by
  induction ws with
  | nil => exact absurd rfl hne
  | cons w ws ih =>
    cases ws with
    | nil => simp
    | cons v ws =>
      rw [List.intercalate_cons_cons, List.flatMap_cons, ← ih (List.cons_ne_nil v ws)]
      simp

theorem padded_of_ne_nil (hne : ws ≠ []) : padded ws = ws.flatMap (' ' :: ·) ++ [' '] := by
  rw [← space_cons_intercalate hne]
  rfl

theorem splitOn_padded (hne : ws ≠ []) (hws : ∀ w ∈ ws, ' ' ∉ w) :
    (padded ws).splitOn ' ' = [] :: (ws ++ [[]]) := by
  have hpadded : padded ws = [] ++ ' ' :: (List.intercalate [' '] ws ++ ' ' :: []) := rfl
  rw [hpadded, List.splitOn_append_cons_self, List.splitOn_append_cons_self,
    List.splitOn_intercalate ' ' hws hne, List.splitOn_nil]
  rfl

theorem infix_of_infix_padded (hpart : part ≠ []) (hws : ∀ w ∈ ws, ' ' ∉ w)
    (h : ' ' :: (part ++ [' ']) <:+: padded ws) : part.splitOn ' ' <:+: ws := by
  have hne : ws ≠ [] := by
    rintro rfl
    have hlength := h.length_le
    have hpos := List.length_pos_iff.mpr hpart
    simp only [padded, List.intercalate_nil, List.length_cons, List.length_append,
      List.length_nil] at hlength
    omega
  obtain ⟨before, behind, h⟩ := h
  have hsplit : before.splitOn ' ' ++ part.splitOn ' ' ++ behind.splitOn ' ' =
      [] :: (ws ++ [[]]) := by
    rw [← splitOn_padded hne hws, ← h, List.append_assoc, ← List.splitOn_append_cons_self,
      ← List.splitOn_append_cons_self]
    simp
  -- What stands on either side of the part has a first and a last piece: the two empty ones.
  obtain ⟨first, left, hleft⟩ := List.exists_cons_of_ne_nil (List.splitOn_ne_nil ' ' before)
  obtain ⟨right, last, hright⟩ :=
    (List.eq_nil_or_concat _).resolve_left (List.splitOn_ne_nil ' ' behind)
  rw [hleft, hright, List.concat_eq_append, List.cons_append, List.cons_append,
    ← List.append_assoc] at hsplit
  have hblock := (List.append_inj' (List.cons.inj hsplit).2 rfl).1
  exact ⟨left, right, hblock⟩

theorem infix_padded_of_infix (h : part.splitOn ' ' <:+: ws) :
    ' ' :: (part ++ [' ']) <:+: padded ws := by
  have hparts := List.splitOn_ne_nil ' ' part
  obtain ⟨before, behind, rfl⟩ := h
  have hne : before ++ part.splitOn ' ' ++ behind ≠ [] := by simp [hparts]
  have hnext : ∃ rest, behind.flatMap (' ' :: ·) ++ [' '] = ' ' :: rest := by
    cases behind with
    | nil => exact ⟨[], rfl⟩
    | cons w behind => exact ⟨_, rfl⟩
  obtain ⟨rest, hrest⟩ := hnext
  refine ⟨before.flatMap (' ' :: ·), rest, ?_⟩
  rw [padded_of_ne_nil hne, List.flatMap_append, List.flatMap_append, List.append_assoc,
    List.append_assoc, hrest, ← space_cons_intercalate hparts, List.intercalate_splitOn]
  simp

theorem infix_padded_iff (hpart : part ≠ []) (hws : ∀ w ∈ ws, ' ' ∉ w) :
    ' ' :: (part ++ [' ']) <:+: padded ws ↔ part.splitOn ' ' <:+: ws :=
  ⟨infix_of_infix_padded hpart hws, infix_padded_of_infix⟩

theorem trimChars_eq_nil_iff : trimChars term.toList = [] ↔ isBlank term = true := by
  rw [← trim_eq_empty_iff, trim, ← String.toList_inj, String.toList_ofList]
  rfl

def loweredParts (term : String) : List (List Char) :=
  ((trimChars term.toList).splitOn ' ').map lowerChars

theorem mentionsTerm_iff (hws : ∀ w ∈ ws, ' ' ∉ w) :
    mentionsTerm (padded ws) term = true ↔ isBlank term = false ∧ loweredParts term <:+: ws := by
  have hblank : (lowerChars (trimChars term.toList)).isEmpty = isBlank term := by
    rw [Bool.eq_iff_iff, List.isEmpty_iff, lowerChars_eq_nil_iff, trimChars_eq_nil_iff]
  rw [mentionsTerm, Bool.and_eq_true, hblank, Bool.not_eq_true', occursIn_iff]
  refine and_congr_right ?_
  intro h
  have hne : lowerChars (trimChars term.toList) ≠ [] := by
    rw [Ne, lowerChars_eq_nil_iff, trimChars_eq_nil_iff, h]
    simp
  rw [loweredParts, ← splitOn_lowerChars, ← infix_padded_iff hne hws]
  rfl

theorem space_not_mem_words (text : String) : ∀ w ∈ words text, ' ' ∉ w := by
  intro w hw
  obtain ⟨run, hrun, rfl⟩ := List.mem_map.mp hw
  exact space_not_mem_lowerChars ((hasWords_runs _).isWord run hrun).space_not_mem

theorem mentions_iff {text : String} {terms : List String} :
    mentions text terms = true ↔
      ∃ term ∈ terms, isBlank term = false ∧ loweredParts term <:+: words text := by
  rw [mentions, List.any_eq_true]
  exact exists_congr fun term => and_congr_right fun _ => mentionsTerm_iff (space_not_mem_words text)

structure IsPhrase (cs : List Char) (us : List (List Char)) : Prop where
  ne_nil : us ≠ []
  words : ∀ u ∈ us, IsWord u
  eq : cs = List.intercalate [' '] us

theorem IsPhrase.splitOn_eq (h : IsPhrase cs us) : cs.splitOn ' ' = us := by
  rw [h.eq]
  exact List.splitOn_intercalate ' ' (fun u hu => (h.words u hu).space_not_mem) h.ne_nil

theorem IsPhrase.loweredParts_eq (h : IsPhrase (trimChars term.toList) us) :
    loweredParts term = us.map lowerChars := by
  rw [loweredParts, h.splitOn_eq]

/-- A term that is blank or, once trimmed, a phrase. -/
def IsPlainTerm (term : String) : Prop :=
  isBlank term = true ∨ ∃ us, IsPhrase (trimChars term.toList) us

/-- The words of a term that is not blank follow one another among others, in lower case. -/
def HasBlock (terms : List String) (ws : List (List Char)) : Prop :=
  ∃ term ∈ terms, isBlank term = false ∧
    ∃ us, IsPhrase (trimChars term.toList) us ∧ us.map lowerChars <:+: ws.map lowerChars

/-- Plain terms are found if and only if the words of one follow one another in the text. -/
theorem mentions_iff_hasBlock {text : String} {terms : List String}
    (hterms : ∀ term ∈ terms, IsPlainTerm term) :
    ∃ ws, (∀ vs, HasWords text.toList vs ↔ vs = ws) ∧
      (mentions text terms = true ↔ HasBlock terms ws) := by
  refine ⟨runs text.toList, fun vs => hasWords_iff, ?_⟩
  rw [mentions_iff]
  refine exists_congr fun term => and_congr_right fun hmem => and_congr_right fun hblank => ?_
  constructor
  · intro hblock
    rcases hterms term hmem with hterm | ⟨us, hus⟩
    · rw [hterm] at hblank
      cases hblank
    · rw [hus.loweredParts_eq] at hblock
      exact ⟨us, hus, hblock⟩
  · rintro ⟨us, hus, hblock⟩
    rw [hus.loweredParts_eq]
    exact hblock

/-- The beginning and the middle of a word are no words. -/
example : mentions "This is the history department" ["hi", "his", "story"] = false := by decide

/-- Both words end with a sigma, which is final in the term and in the text, where more than a space
stands between them. -/
theorem mentions_iff_hasBlock_sigma :
    let text := "«ΓΕΙΑΣ, ΣΑΣ»"
    let terms := ["\t", " Γειας σας "]
    (∀ term ∈ terms, IsPlainTerm term) ∧ mentions text terms = true ∧
      ∃ ws, (∀ vs, HasWords text.toList vs ↔ vs = ws) ∧
        (mentions text terms = true ↔ HasBlock terms ws) := by
  intro text terms
  have hphrase : IsPhrase (trimChars " Γειας σας ".toList)
      [['Γ', 'ε', 'ι', 'α', 'ς'], ['σ', 'α', 'ς']] := ⟨by decide, by decide, by decide⟩
  have hterms : ∀ term ∈ terms, IsPlainTerm term :=
    List.forall_mem_cons.mpr ⟨.inl (by decide), List.forall_mem_singleton.mpr (.inr ⟨_, hphrase⟩)⟩
  exact ⟨hterms, by decide +kernel, mentions_iff_hasBlock hterms⟩

end Callflow.Greeting
