import Callflow.Condition
import Callflow.Text.CodePoint
import Mathlib.Data.List.TakeWhile

/-!
The written form of conditions: `if`, an opening bracket, a name, one of the six operators, a value
and a closing bracket, with any blanks between them. Of the places of a text where one stands the
leftmost is read, and there the longest operator with which one stands there.
-/

namespace Callflow

open Text

section Run

variable {α : Type} {p : α → Bool} {run rest : List α}

theorem takeWhile_run (hrun : ∀ c ∈ run, p c = true) (hrest : ∀ c ∈ rest.head?, p c = false) :
    (run ++ rest).takeWhile p = run := by
  rw [List.takeWhile_append_of_pos hrun]
  cases rest with
  | nil => simp
  | cons c rest => simp [hrest c rfl]

theorem dropWhile_run (hrun : ∀ c ∈ run, p c = true) (hrest : ∀ c ∈ rest.head?, p c = false) :
    (run ++ rest).dropWhile p = rest := by
  rw [List.dropWhile_append_of_pos hrun]
  cases rest with
  | nil => rfl
  | cons c rest => simp [hrest c rfl]

theorem exists_run (p : α → Bool) (cs : List α) :
    ∃ run, (∀ c ∈ run, p c = true) ∧ cs = run ++ cs.dropWhile p :=
  ⟨cs.takeWhile p, fun _ hc => List.mem_takeWhile_imp hc, List.takeWhile_append_dropWhile.symm⟩

theorem head_dropWhile (p : α → Bool) (cs : List α) :
    ∀ c ∈ (cs.dropWhile p).head?, p c = false := by
  intro c hc
  have hnot := List.head?_dropWhile_not p cs
  rwa [Option.mem_def.mp hc] at hnot

end Run

namespace Operator

variable {op other : Operator}

theorem mem_all (op : Operator) : op ∈ all := by cases op <;> decide

theorem token_inj (h : op.token = other.token) : op = other := by
  revert h
  cases op <;> cases other <;> decide

theorem all_pairwise : all.Pairwise fun a b => b.token.length ≤ a.token.length := by decide

end Operator

namespace Condition

variable {c : Char} {cs text before rest token name opening closing value : List Char}
  {op : Operator} {found : Condition}

def IsLetter (c : Char) : Prop := ('A' ≤ c ∧ c ≤ 'Z') ∨ ('a' ≤ c ∧ c ≤ 'z')

theorem isNameStart_iff : isNameStart c = true ↔ IsLetter c ∨ c = '_' := by
  rw [isNameStart, Bool.or_eq_true, isAlpha_iff, beq_iff_eq, IsLetter]

theorem isNameChar_iff : isNameChar c = true ↔ IsLetter c ∨ ('0' ≤ c ∧ c ≤ '9') ∨ c = '_' := by
  rw [isNameChar, Bool.or_eq_true, isAlphanum_iff, beq_iff_eq, or_assoc, IsLetter]

theorem isValueChar_iff : isValueChar c = true ↔ isBlankChar c = false ∧ c ≠ '(' ∧ c ≠ ')' := by
  simp [isValueChar, and_assoc]

theorem toNat_of_isAlphanum (h : c.isAlphanum = true) : 48 ≤ c.toNat ∧ c.toNat ≤ 122 := by
  have hranges : ((65 ≤ c.toNat ∧ c.toNat ≤ 90) ∨ (97 ≤ c.toNat ∧ c.toNat ≤ 122)) ∨
      (48 ≤ c.toNat ∧ c.toNat ≤ 57) := isAlphanum_iff.mp h
  omega

theorem isBlankChar_of_isNameChar (h : isNameChar c = true) : isBlankChar c = false := by
  simp only [isNameChar, Bool.or_eq_true, beq_iff_eq] at h
  cases h with
  | inl h =>
    have hrange := toNat_of_isAlphanum h
    simp only [isBlankChar, Bool.or_eq_false_iff, Bool.and_eq_false_iff, decide_eq_false_iff_not,
      beq_eq_false_iff_ne]
    omega
  | inr h =>
    subst h
    decide

theorem isNameChar_of_isNameStart (h : isNameStart c = true) : isNameChar c = true :=
  isNameChar_iff.mpr ((isNameStart_iff.mp h).imp_right .inr)

theorem isBlankChar_of_isValueChar (h : isValueChar c = true) : isBlankChar c = false :=
  (isValueChar_iff.mp h).1

theorem isValueChar_of_isBlankChar (h : isBlankChar c = true) : isValueChar c = false := by
  simp [isValueChar, h]

theorem isNameChar_of_isBlankChar (h : isBlankChar c = true) : isNameChar c = false := by
  cases hname : isNameChar c with
  | false => rfl
  | true => rw [isBlankChar_of_isNameChar hname] at h; cases h

def AreBlank (cs : List Char) : Prop := ∀ c ∈ cs, isBlankChar c = true

structure IsName (name : List Char) : Prop where
  start : ∃ c ∈ name.head?, IsLetter c ∨ c = '_'
  chars : ∀ c ∈ name, IsLetter c ∨ ('0' ≤ c ∧ c ≤ '9') ∨ c = '_'

structure IsValue (value : List Char) : Prop where
  ne_nil : value ≠ []
  chars : ∀ c ∈ value, isBlankChar c = false ∧ c ≠ '(' ∧ c ≠ ')'

/-- What stands before an operator: `if (` and the name. -/
inductive IsOpening (name : List Char) : List Char → Prop
  | intro {b₁ b₂ b₃ : List Char} (blank₁ : AreBlank b₁) (blank₂ : AreBlank b₂)
      (isName : IsName name) (blank₃ : AreBlank b₃) :
      IsOpening name (['i', 'f'] ++ b₁ ++ ['('] ++ b₂ ++ name ++ b₃)

/-- What stands behind an operator: the value and `)`. -/
inductive IsClosing (value : List Char) : List Char → Prop
  | intro {b₄ b₅ : List Char} (blank₄ : AreBlank b₄) (isValue : IsValue value)
      (blank₅ : AreBlank b₅) :
      IsClosing value (b₄ ++ value ++ b₅ ++ [')'])

/-- A text starts with a condition, whose operator stands between `opening` and `closing`. -/
structure IsReading (found : Condition) (cs opening closing after : List Char) : Prop where
  isOpening : IsOpening found.variableName.toList opening
  isClosing : IsClosing found.value.toList closing
  eq_append : cs = opening ++ (found.operator.token.toList ++ (closing ++ after))

def StandsBehind (before text : List Char) (found : Condition) : Prop :=
  ∃ rest opening closing after, text = before ++ rest ∧ IsReading found rest opening closing after

def Compares (cs : List Char) (op : Operator) (value : List Char) : Prop :=
  ∃ closing after, cs = op.token.toList ++ (closing ++ after) ∧ IsClosing value closing

theorem after?_eq_some_iff : after? token cs = some rest ↔ cs = token ++ rest := by
  induction token generalizing cs with
  | nil => simp [after?]
  | cons t token ih =>
    cases cs with
    | nil => simp [after?]
    | cons c cs =>
      rw [after?, List.cons_append, List.cons_eq_cons]
      split
      · rename_i htc
        rw [ih, eq_comm (a := c)]
        exact (and_iff_right htc).symm
      · rename_i htc
        constructor
        · intro h
          cases h
        · intro h
          exact absurd h.1.symm htc

theorem areBlank_nil : AreBlank [] := fun _ hc => absurd hc List.not_mem_nil

theorem skipBlank_append (hblank : AreBlank before) (hcs : ∀ c ∈ cs.head?, isBlankChar c = false) :
    skipBlank (before ++ cs) = cs := dropWhile_run hblank hcs

theorem exists_skipBlank (cs : List Char) : ∃ blank, AreBlank blank ∧ cs = blank ++ skipBlank cs :=
  exists_run isBlankChar cs

theorem IsName.isNameChar (h : IsName name) : ∀ c ∈ name, isNameChar c = true :=
  fun c hc => isNameChar_iff.mpr (h.chars c hc)

theorem IsValue.isValueChar (h : IsValue value) : ∀ c ∈ value, isValueChar c = true :=
  fun c hc => isValueChar_iff.mpr (h.chars c hc)

theorem IsName.head (h : IsName name) (cs : List Char) :
    ∀ c ∈ (name ++ cs).head?, isBlankChar c = false := by
  obtain ⟨start, hmem, hstart⟩ := h.start
  intro c hc
  rw [List.head?_append, Option.mem_def.mp hmem] at hc
  obtain rfl := Option.some.inj hc
  exact isBlankChar_of_isNameChar (isNameChar_of_isNameStart (isNameStart_iff.mpr hstart))

theorem IsValue.head (h : IsValue value) (cs : List Char) :
    ∀ c ∈ (value ++ cs).head?, isBlankChar c = false := by
  cases value with
  | nil => exact absurd rfl h.ne_nil
  | cons v value =>
    intro c hc
    obtain rfl := Option.some.inj hc
    exact (h.chars v List.mem_cons_self).1

theorem IsName.ne_nil (h : IsName name) : name ≠ [] := by
  rintro rfl
  obtain ⟨c, hc, _⟩ := h.start
  cases hc

theorem IsOpening.isName (h : IsOpening name opening) : IsName name := by
  cases h with
  | intro _ _ isName _ => exact isName

theorem IsClosing.isValue (h : IsClosing value closing) : IsValue value := by
  cases h with
  | intro _ isValue _ => exact isValue

theorem readValue?_closing (h : IsClosing value closing) (after : List Char) :
    readValue? (closing ++ after) = some value := by
  obtain ⟨hb₄, hvalue, hb₅⟩ := h
  rename_i b₄ b₅
  have hcs : b₄ ++ value ++ b₅ ++ [')'] ++ after = b₄ ++ (value ++ (b₅ ++ ')' :: after)) := by simp
  have hstop : ∀ c ∈ (b₅ ++ ')' :: after).head?, isValueChar c = false := by
    cases b₅ with
    | nil => simp [isValueChar]
    | cons b b₅ => simpa using isValueChar_of_isBlankChar (hb₅ b List.mem_cons_self)
  have hclose : skipBlank (b₅ ++ ')' :: after) = ')' :: after :=
    skipBlank_append hb₅ (by simp [isBlankChar])
  simp only [readValue?, hcs, skipBlank_append hb₄ (hvalue.head _),
    takeWhile_run hvalue.isValueChar hstop, dropWhile_run hvalue.isValueChar hstop, hclose,
    List.isEmpty_iff, if_neg hvalue.ne_nil]

theorem exists_closing_of_readValue? (h : readValue? cs = some value) :
    ∃ closing after, cs = closing ++ after ∧ IsClosing value closing := by
  simp only [readValue?] at h
  split at h
  · cases h
  · rename_i hne
    split at h
    · rename_i after hclose
      obtain rfl := Option.some.inj h
      obtain ⟨b₄, hb₄, hcs⟩ := exists_skipBlank cs
      obtain ⟨b₅, hb₅, hrest⟩ := exists_skipBlank ((skipBlank cs).dropWhile isValueChar)
      have hvalue : IsValue ((skipBlank cs).takeWhile isValueChar) :=
        ⟨by simpa using hne, fun c hc => isValueChar_iff.mp (List.mem_takeWhile_imp hc)⟩
      refine ⟨_, after, ?_, .intro hb₄ hvalue hb₅⟩
      calc
        cs = b₄ ++ ((skipBlank cs).takeWhile isValueChar ++ (skipBlank cs).dropWhile isValueChar) := by
          rw [List.takeWhile_append_dropWhile, ← hcs]
        _ = _ := by rw [hrest, hclose]; simp
    · cases h

theorem readValue?_eq_some_iff :
    readValue? cs = some value ↔ ∃ closing after, cs = closing ++ after ∧ IsClosing value closing := by
  refine ⟨exists_closing_of_readValue?, ?_⟩
  rintro ⟨closing, after, rfl, hclosing⟩
  exact readValue?_closing hclosing after

theorem compares_iff : Compares cs op value ↔
    ∃ rest, after? op.token.toList cs = some rest ∧ readValue? rest = some value := by
  simp only [Compares, after?_eq_some_iff, readValue?_eq_some_iff]
  constructor
  · rintro ⟨closing, after, hcs, hclosing⟩
    exact ⟨_, hcs, closing, after, rfl, hclosing⟩
  · rintro ⟨_, hcs, closing, after, rfl, hclosing⟩
    exact ⟨closing, after, hcs, hclosing⟩

theorem Compares.eq_of_length {other : Operator} {value' : List Char} (h : Compares cs op value)
    (hother : Compares cs other value') (hlength : op.token.length = other.token.length) :
    op = other ∧ value = value' := by
  obtain ⟨rest, hrest, hvalue⟩ := compares_iff.mp h
  obtain ⟨rest', hrest', hvalue'⟩ := compares_iff.mp hother
  have hcs := after?_eq_some_iff.mp hrest
  rw [after?_eq_some_iff.mp hrest'] at hcs
  rw [← String.length_toList, ← String.length_toList] at hlength
  obtain ⟨htoken, rfl⟩ := List.append_inj hcs hlength.symm
  rw [hvalue] at hvalue'
  exact ⟨Operator.token_inj (String.toList_inj.mp htoken.symm), Option.some.inj hvalue'⟩

theorem tried_eq_some_iff (tried : Operator) :
    ((after? tried.token.toList cs).bind fun rest => (readValue? rest).map (tried, ·)) =
      some (op, value) ↔ tried = op ∧ Compares cs op value := by
  simp only [compares_iff, Option.bind_eq_some_iff, Option.map_eq_some_iff, Prod.mk.injEq]
  constructor
  · rintro ⟨rest, hrest, _, hvalue, rfl, rfl⟩
    exact ⟨rfl, rest, hrest, hvalue⟩
  · rintro ⟨rfl, rest, hrest, hvalue⟩
    exact ⟨rest, hrest, value, hvalue, rfl, rfl⟩

theorem longest_of_readComparison? (h : readComparison? cs = some (op, value)) :
    Compares cs op value ∧
      ∀ other value', Compares cs other value' → other.token.length ≤ op.token.length := by
  obtain ⟨failed, tried, left, hall, htried, hfailed⟩ := List.findSome?_eq_some_iff.mp h
  obtain ⟨rfl, hcompares⟩ := (tried_eq_some_iff tried).mp htried
  refine ⟨hcompares, ?_⟩
  intro other value' hother
  have hmem := Operator.mem_all other
  have hpairwise := Operator.all_pairwise
  rw [hall] at hmem hpairwise
  -- The operators before this one have failed, and those behind it are not longer.
  rcases List.mem_append.mp hmem with hmem | hmem
  · have hread := (tried_eq_some_iff other).mpr ⟨rfl, hother⟩
    rw [hfailed other hmem] at hread
    cases hread
  · rcases List.mem_cons.mp hmem with rfl | hmem
    · exact Nat.le_refl _
    · exact (List.pairwise_cons.mp (List.pairwise_append.mp hpairwise).2.1).1 other hmem

theorem isSome_readComparison? (h : Compares cs op value) : (readComparison? cs).isSome := by
  refine List.findSome?_isSome_iff.mpr ⟨op, Operator.mem_all op, ?_⟩
  rw [(tried_eq_some_iff op).mpr ⟨rfl, h⟩]
  rfl

theorem readComparison?_eq_some_iff : readComparison? cs = some (op, value) ↔
    Compares cs op value ∧
      ∀ other value', Compares cs other value' → other.token.length ≤ op.token.length := by
  refine ⟨longest_of_readComparison?, ?_⟩
  rintro ⟨hcompares, hlongest⟩
  obtain ⟨⟨op', value'⟩, hread⟩ := Option.isSome_iff_exists.mp (isSome_readComparison? hcompares)
  obtain ⟨hcompares', hlongest'⟩ := longest_of_readComparison? hread
  obtain ⟨rfl, rfl⟩ := hcompares.eq_of_length hcompares'
    (Nat.le_antisymm (hlongest' op value hcompares) (hlongest op' value' hcompares'))
  exact hread

theorem Compares.head (h : Compares cs op value) :
    ∀ c ∈ cs.head?, isBlankChar c = false ∧ isNameChar c = false := by
  obtain ⟨closing, after, rfl, _⟩ := h
  cases op <;> simp [Operator.token] <;> decide

theorem readHere?_opening (hopening : IsOpening name opening) (hcompares : Compares cs op value) :
    readHere? (opening ++ cs) = (readComparison? cs).map fun read =>
      ⟨String.ofList name, read.1, String.ofList read.2⟩ := by
  obtain ⟨hb₁, hb₂, hname, hb₃⟩ := hopening
  rename_i b₁ b₂ b₃
  have hopening : ['i', 'f'] ++ b₁ ++ ['('] ++ b₂ ++ name ++ b₃ ++ cs =
      ['i', 'f'] ++ (b₁ ++ '(' :: (b₂ ++ (name ++ (b₃ ++ cs)))) := by simp
  -- Each part ends where the next one begins, so the opening is taken apart as it was put together.
  have hbracket : skipBlank (b₁ ++ '(' :: (b₂ ++ (name ++ (b₃ ++ cs)))) =
      ['('] ++ (b₂ ++ (name ++ (b₃ ++ cs))) := skipBlank_append hb₁ (by simp [isBlankChar])
  have hstart : (name ++ (b₃ ++ cs)).head?.any isNameStart = true := by
    obtain ⟨c, hc, hstart⟩ := hname.start
    rw [List.head?_append, Option.mem_def.mp hc]
    exact isNameStart_iff.mpr hstart
  have hstop : ∀ c ∈ (b₃ ++ cs).head?, isNameChar c = false := by
    cases b₃ with
    | nil => exact fun c hc => (hcompares.head c hc).2
    | cons b b₃ => simpa using isNameChar_of_isBlankChar (hb₃ b List.mem_cons_self)
  rw [hopening]
  simp only [readHere?, Option.bind_eq_bind, after?_eq_some_iff.mpr rfl, Option.bind_some, hbracket,
    skipBlank_append hb₂ (hname.head _), hstart, takeWhile_run hname.isNameChar hstop, if_true,
    dropWhile_run hname.isNameChar hstop, skipBlank_append hb₃ fun c hc => (hcompares.head c hc).1]
  exact Option.map_eq_bind.symm

theorem isName_takeWhile (h : cs.head?.any isNameStart = true) :
    IsName (cs.takeWhile isNameChar) := by
  refine ⟨?_, fun c hc => isNameChar_iff.mp (List.mem_takeWhile_imp hc)⟩
  cases cs with
  | nil => cases h
  | cons c cs =>
    have hc : isNameStart c = true := h
    rw [List.takeWhile_cons_of_pos (isNameChar_of_isNameStart hc)]
    exact ⟨c, rfl, isNameStart_iff.mp hc⟩

theorem exists_opening_of_readHere? (h : readHere? cs = some found) :
    ∃ opening rest, cs = opening ++ rest ∧ IsOpening found.variableName.toList opening ∧
      readComparison? rest = some (found.operator, found.value.toList) := by
  simp only [readHere?, Option.bind_eq_bind, Option.bind_eq_some_iff] at h
  obtain ⟨behindIf, hif, inside, hbracket, h⟩ := h
  split at h
  · rename_i hstart
    obtain ⟨⟨op, value⟩, hread, h⟩ := Option.bind_eq_some_iff.mp h
    obtain rfl := Option.some.inj h
    obtain ⟨b₁, hb₁, hbehindIf⟩ := exists_skipBlank behindIf
    obtain ⟨b₂, hb₂, hinside⟩ := exists_skipBlank inside
    obtain ⟨b₃, hb₃, hrest⟩ := exists_skipBlank ((skipBlank inside).dropWhile isNameChar)
    simp only [String.toList_ofList]
    refine ⟨_, _, ?_, .intro hb₁ hb₂ (isName_takeWhile hstart) hb₃, hread⟩
    calc
      cs = ['i', 'f'] ++ (b₁ ++ (['('] ++ (b₂ ++ skipBlank inside))) := by
        rw [← hinside, ← after?_eq_some_iff.mp hbracket, ← hbehindIf, after?_eq_some_iff.mp hif]
      _ = ['i', 'f'] ++ (b₁ ++ (['('] ++ (b₂ ++ ((skipBlank inside).takeWhile isNameChar ++
          (b₃ ++ skipBlank ((skipBlank inside).dropWhile isNameChar)))))) := by
        rw [← hrest, List.takeWhile_append_dropWhile]
      _ = _ := by simp only [List.append_assoc]
  · cases h

theorem IsReading.compares {after : List Char} (h : IsReading found cs opening closing after) :
    Compares (found.operator.token.toList ++ (closing ++ after)) found.operator found.value.toList :=
  ⟨closing, after, rfl, h.isClosing⟩

theorem IsReading.readHere? {after : List Char} (h : IsReading found cs opening closing after) :
    readHere? cs = (readComparison? (found.operator.token.toList ++ (closing ++ after))).map
      fun read => ⟨found.variableName, read.1, String.ofList read.2⟩ := by
  rw [h.eq_append, readHere?_opening h.isOpening h.compares, String.ofList_toList]

theorem isReading_of_compares {variableName : String}
    (hopening : IsOpening variableName.toList opening) (h : Compares cs op value) :
    ∃ closing after,
      IsReading ⟨variableName, op, String.ofList value⟩ (opening ++ cs) opening closing after := by
  obtain ⟨closing, after, rfl, hclosing⟩ := h
  rw [← String.toList_ofList (l := value)] at hclosing
  exact ⟨closing, after, hopening, hclosing, rfl⟩

theorem readHere?_eq_some_iff : readHere? cs = some found ↔
    (∃ opening closing after, IsReading found cs opening closing after) ∧
      ∀ other opening closing after, IsReading other cs opening closing after →
        other.operator.token.length ≤ found.operator.token.length := by
  constructor
  · intro h
    obtain ⟨opening, rest, rfl, hopening, hread⟩ := exists_opening_of_readHere? h
    obtain ⟨closing, after, hreading⟩ :=
      isReading_of_compares hopening (readComparison?_eq_some_iff.mp hread).1
    rw [String.ofList_toList] at hreading
    refine ⟨⟨opening, closing, after, hreading⟩, ?_⟩
    intro other opening' closing' after' hother
    rw [hother.readHere?] at h
    obtain ⟨⟨op, value⟩, hread', rfl⟩ := Option.map_eq_some_iff.mp h
    exact (readComparison?_eq_some_iff.mp hread').2 _ _ hother.compares
  · rintro ⟨⟨opening, closing, after, hreading⟩, hlongest⟩
    have hread : readComparison? (found.operator.token.toList ++ (closing ++ after)) =
        some (found.operator, found.value.toList) := by
      refine readComparison?_eq_some_iff.mpr ⟨hreading.compares, ?_⟩
      intro other value' hcompares
      obtain ⟨closing', after', hother⟩ := isReading_of_compares hreading.isOpening hcompares
      rw [← hreading.eq_append] at hother
      exact hlongest _ _ _ _ hother
    rw [hreading.readHere?, hread, Option.map_some, String.ofList_toList]

theorem leftmost_of_readChars? (h : readChars? cs = some found) :
    ∃ before rest, cs = before ++ rest ∧ readHere? rest = some found ∧
      ∀ before' rest', cs = before' ++ rest' → (readHere? rest').isSome →
        before.length ≤ before'.length := by
  induction cs with
  | nil => cases h
  | cons c cs ih =>
    rw [readChars?] at h
    split at h
    · rename_i hhere
      exact ⟨[], c :: cs, rfl, hhere.trans h, fun _ _ _ _ => Nat.zero_le _⟩
    · rename_i hnone
      obtain ⟨before, rest, rfl, hrest, hleftmost⟩ := ih h
      refine ⟨c :: before, rest, rfl, hrest, ?_⟩
      intro before' rest' hsplit hsome
      cases before' with
      | nil =>
        rw [List.nil_append] at hsplit
        rw [← hsplit, hnone] at hsome
        cases hsome
      | cons d before' =>
        exact Nat.succ_le_succ (hleftmost before' rest' (List.cons.inj hsplit).2 hsome)

theorem isSome_readChars? (h : (readHere? rest).isSome) (before : List Char) :
    (readChars? (before ++ rest)).isSome := by
  induction before with
  | nil =>
    cases rest with
    | nil => exact h
    | cons c rest =>
      obtain ⟨found, hfound⟩ := Option.isSome_iff_exists.mp h
      rw [List.nil_append, readChars?, hfound]
      rfl
  | cons c before ih =>
    rw [List.cons_append, readChars?]
    split
    · rfl
    · exact ih

theorem readChars?_eq_some_iff : readChars? cs = some found ↔
    ∃ before rest, cs = before ++ rest ∧ readHere? rest = some found ∧
      ∀ before' rest', cs = before' ++ rest' → (readHere? rest').isSome →
        before.length ≤ before'.length := by
  refine ⟨leftmost_of_readChars?, ?_⟩
  -- something is read since a condition stands here, and only one place can be the leftmost
  rintro ⟨before, rest, rfl, hrest, hleftmost⟩
  have hsome : (readHere? rest).isSome := Option.isSome_of_eq_some hrest
  obtain ⟨found', hfound'⟩ := Option.isSome_iff_exists.mp (isSome_readChars? hsome before)
  obtain ⟨before', rest', hsplit, hrest', hleftmost'⟩ := leftmost_of_readChars? hfound'
  have hlength : before.length = before'.length :=
    Nat.le_antisymm (hleftmost before' rest' hsplit (Option.isSome_of_eq_some hrest'))
      (hleftmost' before rest rfl hsome)
  obtain ⟨rfl, rfl⟩ := List.append_inj hsplit hlength
  rw [hfound', ← hrest', hrest]

/-- The one that counts of the conditions that stand in a text. -/
structure IsFirst (before text : List Char) (found : Condition) : Prop where
  stands : StandsBehind before text found
  leftmost : ∀ before' other, StandsBehind before' text other → before.length ≤ before'.length
  longest : ∀ other, StandsBehind before text other →
    other.operator.token.length ≤ found.operator.token.length

theorem isSome_readHere?_iff : (readHere? cs).isSome ↔
    ∃ found opening closing after, IsReading found cs opening closing after := by
  constructor
  · intro h
    obtain ⟨found, hfound⟩ := Option.isSome_iff_exists.mp h
    exact ⟨found, (readHere?_eq_some_iff.mp hfound).1⟩
  · rintro ⟨found, opening, closing, after, h⟩
    rw [h.readHere?, Option.isSome_map]
    exact isSome_readComparison? h.compares

theorem isFirst_iff : IsFirst before text found ↔
    ∃ rest, text = before ++ rest ∧ readHere? rest = some found ∧
      ∀ before' other, StandsBehind before' text other → before.length ≤ before'.length := by
  constructor
  · rintro ⟨⟨rest, opening, closing, after, rfl, hreading⟩, hleftmost, hlongest⟩
    refine ⟨rest, rfl, ?_, hleftmost⟩
    refine readHere?_eq_some_iff.mpr ⟨⟨opening, closing, after, hreading⟩, ?_⟩
    intro other opening' closing' after' hother
    exact hlongest other ⟨rest, opening', closing', after', rfl, hother⟩
  · rintro ⟨rest, rfl, hread, hleftmost⟩
    obtain ⟨⟨opening, closing, after, hreading⟩, hlongest⟩ := readHere?_eq_some_iff.mp hread
    refine ⟨⟨rest, opening, closing, after, rfl, hreading⟩, hleftmost, ?_⟩
    rintro other ⟨rest', opening', closing', after', hsplit, hother⟩
    rw [← List.append_cancel_left hsplit] at hother
    exact hlongest other opening' closing' after' hother

theorem read?_eq_some_iff {text : String} :
    read? text = some found ↔ ∃ before, IsFirst before text.toList found := by
  rw [read?, readChars?_eq_some_iff]
  constructor
  · rintro ⟨before, rest, hsplit, hread, hleftmost⟩
    refine ⟨before, isFirst_iff.mpr ⟨rest, hsplit, hread, ?_⟩⟩
    rintro before' other ⟨rest', opening, closing, after, hsplit', hother⟩
    exact hleftmost before' rest' hsplit'
      (isSome_readHere?_iff.mpr ⟨other, opening, closing, after, hother⟩)
  · rintro ⟨before, hfirst⟩
    obtain ⟨rest, hsplit, hread, hleftmost⟩ := isFirst_iff.mp hfirst
    refine ⟨before, rest, hsplit, hread, ?_⟩
    intro before' rest' hsplit' hsome
    obtain ⟨other, opening, closing, after, hother⟩ := isSome_readHere?_iff.mp hsome
    exact hleftmost before' other ⟨rest', opening, closing, after, hsplit', hother⟩

theorem isSome_read?_iff {text : String} :
    (read? text).isSome ↔ ∃ before found, StandsBehind before text.toList found := by
  constructor
  · intro h
    obtain ⟨found, hfound⟩ := Option.isSome_iff_exists.mp h
    obtain ⟨before, hfirst⟩ := read?_eq_some_iff.mp hfound
    exact ⟨before, found, hfirst.stands⟩
  · rintro ⟨before, found, rest, opening, closing, after, hsplit, hreading⟩
    rw [read?, hsplit]
    exact isSome_readChars? (isSome_readHere?_iff.mpr ⟨found, opening, closing, after, hreading⟩) before

theorem parts_of_read? {text : String} (h : read? text = some found) :
    IsName found.variableName.toList ∧ IsValue found.value.toList := by
  obtain ⟨_, hfirst⟩ := read?_eq_some_iff.mp h
  obtain ⟨_, _, _, _, _, hreading⟩ := hfirst.stands
  exact ⟨hreading.isOpening.isName, hreading.isClosing.isValue⟩

theorem invertToken?_token (op : Operator) : invertToken? op.token = some op.inverse.token := by
  cases op <;> rfl

theorem trueLabel_eq (found : Condition) :
    found.trueLabel = found.variableName ++ found.operator.token ++ found.value := rfl

theorem falseLabel_eq (found : Condition) :
    found.falseLabel = found.variableName ++ found.operator.inverse.token ++ found.value := by
  rw [falseLabel, labels, branchLabels, invertToken?_token]

/-- A text is read if and only if a condition stands in it. What is read is the leftmost one, with the
longest operator there; its labels are put together of its parts, for the false branch with the
inverse operator. -/
theorem read?_recognizes (text : String) :
    ((read? text).isSome ↔ ∃ before found, StandsBehind before text.toList found) ∧
      ∀ found, (read? text = some found ↔ ∃ before, IsFirst before text.toList found) ∧
        found.trueLabel = found.variableName ++ found.operator.token ++ found.value ∧
        found.falseLabel = found.variableName ++ found.operator.inverse.token ++ found.value := by
  refine ⟨isSome_read?_iff, ?_⟩
  intro found
  exact ⟨read?_eq_some_iff, trueLabel_eq found, falseLabel_eq found⟩

/-- The first `if` opens no condition, since a bracket is no part of a name. -/
example : read? "if (if (Zip<= <9 ) else" = some ⟨"Zip", .lessThanOrEqual, "<9"⟩ := by decide

end Condition

end Callflow
