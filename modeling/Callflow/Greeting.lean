import Callflow.Text.Alphanumeric
import Callflow.Text.Blank
import Callflow.Text.LowerCase

/-!
Whether a text greets: one of the greeting terms, in lower case, stands in it as whole words.
-/

namespace Callflow.Greeting

open Text

def runs : List Char → List (List Char)
  | [] => []
  | c :: cs =>
    if isAlphanumeric c then
      match cs, runs cs with
      | d :: _, w :: ws => if isAlphanumeric d then (c :: w) :: ws else [c] :: w :: ws
      | _, ws => [c] :: ws
    else runs cs

def words (text : String) : List (List Char) := (runs text.toList).map lowerChars

def padded (ws : List (List Char)) : List Char := [' '] ++ List.intercalate [' '] ws ++ [' ']

def occursIn (part : List Char) : List Char → Bool
  | [] => part.isEmpty
  | c :: cs => part.isPrefixOf (c :: cs) || occursIn part cs

/-- Whether a term stands among the words; a blank term does not. -/
def mentionsTerm (line : List Char) (term : String) : Bool :=
  let t := lowerChars (trimChars term.toList)
  !t.isEmpty && occursIn ([' '] ++ t ++ [' ']) line

def mentions (text : String) (terms : List String) : Bool :=
  terms.any (mentionsTerm (padded (words text)))

end Callflow.Greeting
