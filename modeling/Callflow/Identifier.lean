import Callflow.Text.CodePoint

/-!
Identifiers of a pathway: ASCII letters, digits and the underscore. Any text is made one by an
underscore in the place of every other character.
-/

namespace Callflow.Identifier

def isIdChar (c : Char) : Bool := c.isAlphanum || c == '_'

theorem isIdChar_iff {c : Char} : isIdChar c = true ↔
    (('A' ≤ c ∧ c ≤ 'Z') ∨ ('a' ≤ c ∧ c ≤ 'z')) ∨ ('0' ≤ c ∧ c ≤ '9') ∨ c = '_' := by
  rw [isIdChar, Bool.or_eq_true, Text.isAlphanum_iff, beq_iff_eq, or_assoc]

def cleanChar (c : Char) : Char := if isIdChar c then c else '_'

def clean (s : String) : String := String.ofList (s.toList.map cleanChar)

def isClean (s : String) : Bool := s.toList.all isIdChar

theorem isIdChar_cleanChar (c : Char) : isIdChar (cleanChar c) = true := by
  unfold cleanChar
  split
  · assumption
  · decide

theorem isClean_clean (s : String) : isClean (clean s) = true := by
  simp [isClean, clean, isIdChar_cleanChar]

theorem clean_of_isClean {s : String} (h : isClean s = true) : clean s = s := by
  have hmap : s.toList.map cleanChar = s.toList := by
    rw [List.map_congr_left (g := id), List.map_id]
    intro c hc
    simp [cleanChar, List.all_eq_true.mp h c hc]
  simp [clean, hmap]

theorem clean_clean (s : String) : clean (clean s) = clean s :=
  clean_of_isClean (isClean_clean s)

end Callflow.Identifier
