import AssessmentChat.Command
import AssessmentChat.Console.Ink
import AssessmentChat.Text.Blank
import AssessmentChat.Text.Number

namespace AssessmentChat.Console

/-!
# Lines

What a line means that the user enters, and how it is completed while it is
being entered.  Most lines are messages; a few that begin with a slash are
commands, and a number after a slash picks a suggestion of the latest answer.
-/

/-- The commands that are completed. -/
def commandNames : List String :=
  ["/help", "/download", "/stop", "/quit"]

/-- What a line comes to. -/
inductive LineMeaning
  | command (command : Command)
  /-- No suggestion has the number. -/
  | noSuggestion (number : Nat)
deriving Repr, DecidableEq

/-- The suggestion with a number, counted from one. -/
def suggestion? (suggestions : List FollowUpOption) (number : Nat) : Option FollowUpOption :=
  if number = 0 then none else suggestions[number - 1]?

/-- The characters of a line after the given beginning. -/
def after? (beginning : String) (line : List Char) : Option (List Char) :=
  if beginning.toList.isPrefixOf line then some (line.drop beginning.length) else none

/-- The destination that follows the download command; there is no command when no space does. -/
def destination? (line : List Char) : Option (Option String) :=
  match after? "/download" line with
  | some [] => some none
  | some (' ' :: rest) =>
      let path := trim (String.ofList (' ' :: rest))
      some (if path.isEmpty then none else some path)
  | _ => none

/-- The number that a slash is followed by. -/
def pickedNumber? : List Char → Option Nat
  | '/' :: rest => naturalBelow? UInt64.size (String.ofList rest)
  | _ => none

/-- What a line means in a session, while the given suggestions are on show. -/
def LineMeaning.of (line sessionId : String) (suggestions : List FollowUpOption) :
    LineMeaning :=
  if line = "/stop" then .command (.stopResponse sessionId)
  else if line = "/quit" then .command (.tabClosed sessionId)
  else if line = "/help" then .command (.help sessionId)
  else
    match destination? line.toList with
    | some destination => .command (.downloadPlan sessionId destination)
    | none =>
        match pickedNumber? line.toList with
        | some number =>
            match suggestion? suggestions number with
            | some suggestion => .command (.followUpClicked sessionId suggestion)
            | none => .noSuggestion number
        | none => .command (.chatMessage sessionId line)

/-- The command of a line, if it is one. -/
def LineMeaning.command? : LineMeaning → Option Command
  | .command given => some given
  | .noSuggestion _ => none

/-- What is printed about a line itself. -/
def LineMeaning.remarks (colours : Bool) : LineMeaning → List String
  | .command _ => []
  | .noSuggestion number => [painted colours .red s!"No follow-up #{number}"]

/-! ## While a line is entered -/

/-- The characters of a text that lie within its first bytes. -/
def withinBytes (bytes : Nat) : List Char → List Char
  | [] => []
  | character :: rest =>
      if character.utf8Size ≤ bytes then character :: withinBytes (bytes - character.utf8Size) rest
      else []

/-- Whether characters begin with a slash. -/
def isCommandLike (line : List Char) : Bool :=
  line.head? = some '/'

/-- The commands that begin as a line does. -/
def completions (line : List Char) : List String :=
  if isCommandLike line then commandNames.filter fun name => line.isPrefixOf name.toList else []

/-- The rest of the first command that a line is a beginning of. -/
def hint? (line : List Char) : Option String :=
  if isCommandLike line && !line.contains ' ' then
    ((completions line).find? fun name => line.length < name.length).map fun name =>
      String.ofList (name.toList.drop line.length)
  else none

/-- A line as it is shown while it is entered. -/
def highlighted (colours : Bool) (line : String) : String :=
  if isCommandLike line.toList then painted colours .brightCyan line else line

end AssessmentChat.Console
