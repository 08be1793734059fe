namespace AssessmentChat.Console

/-!
# Ink

Texts on a terminal can be coloured.  A coloured text begins with the codes of
its ink and ends with a reset; where it holds a reset of its own, the codes are
repeated, so that the rest of it keeps its colour.
-/

/-- The colours and styles in use. -/
inductive Ink
  | red
  | yellow
  | grey
  | slantedGrey
  | brightGreen
  | brightYellow
  | brightBlue
  | boldMagenta
  | brightCyan
deriving Repr, DecidableEq

/-- The codes of an ink. -/
def Ink.codes : Ink → String
  | .red => "31"
  | .yellow => "33"
  | .grey => "90"
  | .slantedGrey => "3;90"
  | .brightGreen => "92"
  | .brightYellow => "93"
  | .brightBlue => "94"
  | .boldMagenta => "1;95"
  | .brightCyan => "96"

/-- What switches the terminal to an ink. -/
def Ink.sequence (ink : Ink) : String :=
  "\x1b[" ++ ink.codes ++ "m"

/-- What switches the terminal back. -/
def reset : String :=
  "\x1b[0m"

/-- The characters with a sequence repeated after every reset. -/
def renewed (sequence : List Char) : List Char → List Char
  | '\x1b' :: '[' :: '0' :: 'm' :: rest => reset.toList ++ sequence ++ renewed sequence rest
  | character :: rest => character :: renewed sequence rest
  | [] => []

/-- A text in an ink, where colours are on. -/
def painted (colours : Bool) (ink : Ink) (text : String) : String :=
  if colours then
    ink.sequence ++ String.ofList (renewed ink.sequence.toList text.toList) ++ reset
  else text

end AssessmentChat.Console
