/-!
Blank characters are those with the White_Space property. Trimming removes them from both ends of
a text; a text made of them alone counts as not given.
-/

namespace Callflow.Text

def isBlankChar (c : Char) : Bool :=
  let n := c.toNat
  (decide (0x9 ≤ n) && decide (n ≤ 0xD)) || n == 0x20 || n == 0x85 || n == 0xA0 || n == 0x1680 ||
    (decide (0x2000 ≤ n) && decide (n ≤ 0x200A)) || n == 0x2028 || n == 0x2029 || n == 0x202F ||
    n == 0x205F || n == 0x3000

def trimChars (cs : List Char) : List Char :=
  ((cs.dropWhile isBlankChar).reverse.dropWhile isBlankChar).reverse

def trim (s : String) : String := String.ofList (trimChars s.toList)

def isBlank (s : String) : Bool := s.toList.all isBlankChar

def nonBlank? (s : Option String) : Option String := s.filter (!isBlank ·)

def trimmed? (s : Option String) : Option String := (nonBlank? s).map trim

end Callflow.Text
