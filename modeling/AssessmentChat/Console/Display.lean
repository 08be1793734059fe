import AssessmentChat.Console.Ink
import AssessmentChat.Event

namespace AssessmentChat.Console

/-!
# Display

What is printed when an event arrives, and which suggestions are then on show:
those of the latest answer.
-/

/-- The lines of a text, each up to its end of line; a final one that is empty is none. -/
def linesAfter (line : List Char) : List Char → List String
  | [] => if line.isEmpty then [] else [String.ofList line.reverse]
  | '\r' :: '\n' :: rest => String.ofList line.reverse :: linesAfter [] rest
  | '\n' :: rest => String.ofList line.reverse :: linesAfter [] rest
  | character :: rest => linesAfter (character :: line) rest

/-- The lines of a text. -/
def linesOf (text : String) : List String :=
  linesAfter [] text.toList

/-- The suggestions of an answer, numbered from one. -/
def numbered (colours : Bool) (suggestions : List FollowUpOption) : List String :=
  suggestions.zipIdx.map fun (suggestion, index) =>
    painted colours .yellow s!"  [{index + 1}] {suggestion.pillText}"

/-- The suggestions that come with an answer. -/
def suggestionsOf (followUp : Option FollowUp) : List FollowUpOption :=
  (followUp.map FollowUp.options).getD []

/-- What is printed for a notice. -/
def printed (colours : Bool) : Notice → List String
  | .answer message followUp _ =>
      (linesOf message).map (painted colours .brightBlue) ++
        numbered colours (suggestionsOf followUp) ++ [""]
  | .answerStream _ message => [painted colours .grey s!"... {message}"]
  | .placeholder text =>
      if text.isEmpty then [] else [painted colours .slantedGrey s!"({text})"]
  | .signInNeeded _ message => [painted colours .brightYellow message]
  | .inputEnabled _ => []

/-- The suggestions on show after a notice. -/
def suggestionsAfter (suggestions : List FollowUpOption) : Notice → List FollowUpOption
  | .answer _ followUp _ => suggestionsOf followUp
  | _ => suggestions

end AssessmentChat.Console
