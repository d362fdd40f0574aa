import Callflow.Text.LowerCase

/-!
The type tags of the editor. Case, spaces, dashes and underscores do not matter, and some types have
more than one tag.
-/

namespace Callflow.Editor

inductive NodeType where
  | greeting
  | question
  | response
  | customerResponse
  | transfer
  | endCall
  | webhook
  | conditional
  | facebookLead
  | googleLead
  | zapier
  deriving DecidableEq, Repr

namespace NodeType

def tags : List (String × NodeType) := [
  ("greeting", .greeting), ("start", .greeting),
  ("question", .question), ("default", .question),
  ("response", .response),
  ("customerresponse", .customerResponse),
  ("transfer", .transfer), ("transfercall", .transfer),
  ("endcall", .endCall), ("end", .endCall),
  ("webhook", .webhook),
  ("conditional", .conditional), ("condition", .conditional),
  ("facebooklead", .facebookLead),
  ("googlelead", .googleLead),
  ("zapier", .zapier)]

def isFiller (c : Char) : Bool := c == ' ' || c == '-' || c == '_'

def normalize (tag : String) : String :=
  String.ofList ((tag.toList.filter (!isFiller ·)).flatMap Text.lowerChar)

def ofTag? (tag : String) : Option NodeType := tags.lookup (normalize tag)

end NodeType

end Callflow.Editor
