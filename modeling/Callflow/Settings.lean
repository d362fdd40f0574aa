import Callflow.Decimal.Binary64

/-!
What can be tuned about a compilation. Every setting has a default.
-/

namespace Callflow

open Decimal

structure ModelDefaults where
  modelType : String := "smart"
  temperature : Binary64 := .ofRatio false 1 5
  deriving DecidableEq, Repr

def defaultGreetingTerms : List String :=
  ["hello", "hi", "hey", "welcome", "greet", "good morning", "good afternoon", "good evening"]

structure Settings where
  seedVariables : List String := ["Age"]
  integerVariables : List String := ["Age", "Zip"]
  greetingTerms : List String := defaultGreetingTerms
  /-- Said by a node whose text is blank. -/
  defaultText : String := "Please continue the conversation."
  /-- Said by a closing node with neither prompt nor text. -/
  endCallPrompt : String := "Thank you for calling. Goodbye!"
  /-- Said by the greeting that a chart without one is given. -/
  synthesizedGreeting : String := "Hello! Thank you for calling. How can I help you today?"
  /-- Said by the closing that a chart without one is given. -/
  synthesizedClosing : String := "Thank you for your time. Have a great day. Goodbye!"
  model : ModelDefaults := {}
  deriving DecidableEq, Repr

end Callflow
