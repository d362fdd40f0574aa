import Callflow.Greeting
import Callflow.Proofs.ConditionGrammar

/-!
The words of a text: its maximal runs of letters and digits. Everything about them follows from two
equations: what is neither a letter nor a digit belongs to no word and parts those before from those
behind, and a run that ends where such a character or nothing follows is one word.
-/

namespace Callflow.Greeting

open Text

structure IsWord (w : List Char) : Prop where
  ne_nil : w ≠ []
  all : w.all isAlphanumeric = true

instance (w : List Char) : Decidable (IsWord w) :=
  decidable_of_iff (w ≠ [] ∧ w.all isAlphanumeric = true)
    ⟨fun h => ⟨h.1, h.2⟩, fun h => ⟨h.ne_nil, h.all⟩⟩

def IsGap (cs : List Char) : Prop := cs.any isAlphanumeric = false

instance (cs : List Char) : Decidable (IsGap cs) :=
  inferInstanceAs (Decidable (cs.any isAlphanumeric = false))

/-- A text has the words: there may be a gap at either end of it, and between two words there is
one. -/
inductive HasWords : List Char → List (List Char) → Prop where
  | gap {gap : List Char} (hgap : IsGap gap) : HasWords gap []
  | word {gap w rest : List Char} {ws : List (List Char)} (hgap : IsGap gap) (hw : IsWord w)
      (hend : ∀ c ∈ rest.head?, isAlphanumeric c = false) (hrest : HasWords rest ws) :
      HasWords (gap ++ w ++ rest) (w :: ws)

variable {c : Char} {cs gap w rest before behind : List Char} {ws : List (List Char)}

theorem IsGap.eq_false (h : IsGap cs) (hc : c ∈ cs) : isAlphanumeric c = false := by
  simpa using List.any_eq_false.mp h c hc

theorem IsWord.eq_true (h : IsWord w) (hc : c ∈ w) : isAlphanumeric c = true :=
  List.all_eq_true.mp h.all c hc

theorem IsGap.filter_eq (h : IsGap cs) : cs.filter isAlphanumeric = [] :=
  List.filter_eq_nil_iff.mpr fun _ hc => by simp [h.eq_false hc]

theorem IsWord.filter_eq (h : IsWord w) : w.filter isAlphanumeric = w :=
  List.filter_eq_self.mpr fun _ hc => h.eq_true hc

theorem isAlphanumeric_space : isAlphanumeric ' ' = false := by decide

theorem ne_space_of_isAlphanumeric (h : isAlphanumeric c = true) : c ≠ ' ' := by
  rintro rfl
  rw [isAlphanumeric_space] at h
  cases h

theorem IsWord.space_not_mem (h : IsWord w) : ' ' ∉ w := fun hspace =>
  ne_space_of_isAlphanumeric (h.eq_true hspace) rfl

theorem runs_cons_of_false (h : isAlphanumeric c = false) (cs : List Char) :
    runs (c :: cs) = runs cs := by
  simp [runs, h]

theorem runs_append_of_isGap (h : IsGap gap) (cs : List Char) : runs (gap ++ cs) = runs cs := by
  induction gap with
  | nil => rfl
  | cons c gap ih =>
    rw [List.cons_append, runs_cons_of_false (h.eq_false List.mem_cons_self)]
    exact ih (List.any_eq_false.mpr fun d hd => by simp [h.eq_false (List.mem_cons_of_mem c hd)])

theorem runs_cons_of_head (hc : isAlphanumeric c = true)
    (hend : ∀ d ∈ cs.head?, isAlphanumeric d = false) : runs (c :: cs) = [c] :: runs cs := by
  cases cs with
  | nil => simp [runs, hc]
  | cons d cs =>
    rw [runs.eq_def]
    simp only [hc, if_true]
    cases runs (d :: cs) with
    | nil => rfl
    | cons w ws => simp [hend d rfl]

theorem runs_cons_cons (hc : isAlphanumeric c = true) {d : Char} (hd : isAlphanumeric d = true)
    (h : runs (d :: cs) = w :: ws) : runs (c :: d :: cs) = (c :: w) :: ws := by
  rw [runs.eq_def]
  simp only [hc, if_true, h, hd]

theorem runs_append_of_isWord (hw : IsWord w)
    (hend : ∀ c ∈ rest.head?, isAlphanumeric c = false) : runs (w ++ rest) = w :: runs rest := by
  obtain ⟨hne, hall⟩ := hw
  induction w with
  | nil => exact absurd rfl hne
  | cons c w ih =>
    rw [List.all_cons, Bool.and_eq_true] at hall
    cases w with
    | nil => exact runs_cons_of_head hall.1 hend
    | cons d w =>
      have hd : isAlphanumeric d = true := by
        have htail := hall.2
        rw [List.all_cons, Bool.and_eq_true] at htail
        exact htail.1
      exact runs_cons_cons hall.1 hd (ih (List.cons_ne_nil d w) hall.2)

theorem isGap_iff : IsGap cs ↔ ∀ c ∈ cs, isAlphanumeric c = false := by
  simp [IsGap]

theorem IsGap.append (hb : IsGap before) (ha : IsGap behind) : IsGap (before ++ behind) := by
  rw [isGap_iff, List.forall_mem_append]
  exact ⟨isGap_iff.mp hb, isGap_iff.mp ha⟩

theorem runs_of_isGap (h : IsGap gap) : runs gap = [] := by
  have hnil := runs_append_of_isGap h []
  rwa [List.append_nil] at hnil

theorem hasWords_runs (cs : List Char) : HasWords cs (runs cs) := by
  -- What is left behind the first word is shorter than the text.
  induction hn : cs.length using Nat.strongRecOn generalizing cs with
  | ind n ih =>
    obtain ⟨gap, hgap, hcs⟩ := exists_run (!isAlphanumeric ·) cs
    have hhead := head_dropWhile (!isAlphanumeric ·) cs
    generalize cs.dropWhile (!isAlphanumeric ·) = behind at hcs hhead
    have hgap' : IsGap gap := isGap_iff.mpr fun c hc => by simpa using hgap c hc
    cases behind with
    | nil =>
      rw [List.append_nil] at hcs
      rw [hcs, runs_of_isGap hgap']
      exact .gap hgap'
    | cons c tail =>
      have hc : isAlphanumeric c = true := by simpa using hhead c rfl
      obtain ⟨run, hrun, htail⟩ := exists_run isAlphanumeric tail
      have hend := head_dropWhile isAlphanumeric tail
      generalize tail.dropWhile isAlphanumeric = rest at htail hend
      have hword : IsWord (c :: run) :=
        ⟨List.cons_ne_nil c run, List.all_eq_true.mpr (List.forall_mem_cons.mpr ⟨hc, hrun⟩)⟩
      have hsplit : cs = gap ++ (c :: run) ++ rest := by
        rw [hcs, htail, List.append_assoc, List.cons_append]
      have hshorter : rest.length < n := by
        rw [← hn, hsplit, List.length_append, List.length_append, List.length_cons]
        omega
      have hruns : runs cs = (c :: run) :: runs rest := by
        rw [hsplit, List.append_assoc, runs_append_of_isGap hgap', runs_append_of_isWord hword hend]
      rw [hruns, hsplit]
      exact .word hgap' hword hend (ih rest.length hshorter rest rfl)

theorem hasWords_iff : HasWords cs ws ↔ ws = runs cs := by
  constructor
  · intro h
    induction h with
    | gap hgap => exact (runs_of_isGap hgap).symm
    | word hgap hw hend _ ih =>
      rw [List.append_assoc, runs_append_of_isGap hgap, runs_append_of_isWord hw hend, ih]
  · rintro rfl
    exact hasWords_runs cs

theorem HasWords.isWord (h : HasWords cs ws) : ∀ w ∈ ws, IsWord w := by
  induction h with
  | gap _ => simp
  | word _ hw _ _ ih => exact List.forall_mem_cons.mpr ⟨hw, ih⟩

theorem HasWords.flatten_eq (h : HasWords cs ws) : ws.flatten = cs.filter isAlphanumeric := by
  induction h with
  | gap hgap => rw [hgap.filter_eq, List.flatten_nil]
  | word hgap hw _ _ ih =>
    rw [List.filter_append, List.filter_append, hgap.filter_eq, hw.filter_eq, ← ih,
      List.nil_append, List.flatten_cons]

theorem HasWords.append_gap (h : HasWords cs ws) (hgap : IsGap gap) : HasWords (cs ++ gap) ws := by
  induction h with
  | gap hbefore => exact .gap (hbefore.append hgap)
  | word hbefore hw hend _ ih =>
    rw [List.append_assoc]
    refine .word hbefore hw ?_ ih
    intro c hc
    rw [List.head?_append] at hc
    rcases Option.or_eq_some_iff.mp hc with hc | ⟨_, hc⟩
    · exact hend c hc
    · exact hgap.eq_false (List.mem_of_head? hc)

theorem runs_between (hbefore : IsGap before) (hbehind : IsGap behind) (cs : List Char) :
    runs (before ++ cs ++ behind) = runs cs := by
  rw [← hasWords_iff.mp ((hasWords_runs (before ++ cs)).append_gap hbehind),
    runs_append_of_isGap hbefore]

end Callflow.Greeting
