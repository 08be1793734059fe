namespace AssessmentChat.Console

/-!
# Arguments

The options of the program.  Each takes one value and may be given once.  A
value is taken over only when the next option or the end is reached, and that is
when it is checked.
-/

/-- The options. -/
inductive Setting
  | config
  | endpoint
  | workspace
  | session
deriving Repr, DecidableEq

namespace Setting

/-- Every option. -/
def all : List Setting :=
  [.config, .endpoint, .workspace, .session]

/-- The name of an option. -/
def name : Setting → String
  | .config => "config"
  | .endpoint => "endpoint"
  | .workspace => "workspace"
  | .session => "session"

/-- Whether the value of an option is a path, which may not be empty. -/
def isPath : Setting → Bool
  | .config | .workspace => true
  | .endpoint | .session => false

end Setting

/-- Why arguments are not accepted. -/
inductive UsageFault
  | unknownArgument
  | invalidValue
  | tooManyValues
  | argumentConflict
  /-- Help was asked for. -/
  | helpWanted
deriving Repr, DecidableEq

/-- The arguments of the program. -/
structure Arguments where
  config : Option String := none
  endpoint : Option String := none
  workspace : String := "."
  session : String := "cli"
deriving Repr, DecidableEq

/-- An argument by its form. -/
inductive ArgumentForm
  /-- The mark after which no more options follow. -/
  | ending
  | option (name : List Char) (value : Option (List Char))
  /-- Letters after a single dash. -/
  | letters (letters : List Char)
  | value
deriving Repr, DecidableEq

/-- The form of an argument. -/
def ArgumentForm.of : List Char → ArgumentForm
  | ['-', '-'] => .ending
  | '-' :: '-' :: rest =>
      .option (rest.takeWhile (· ≠ '='))
        (if rest.contains '=' then some ((rest.dropWhile (· ≠ '=')).drop 1) else none)
  | '-' :: first :: rest => .letters (first :: rest)
  | _ => .value

/-- The options read so far. -/
structure ArgumentReading where
  /-- The values that were taken over. -/
  given : List (Setting × String) := []
  /-- The option whose value is still to be taken over, with the value if it has come. -/
  pending : Option (Setting × Option String) := none
  /-- Whether the mark has come after which no more options follow. -/
  ended : Bool := false

namespace ArgumentReading

/-- Takes over a value. -/
def take (reading : ArgumentReading) (setting : Setting) (value : String) :
    Except UsageFault ArgumentReading :=
  if (reading.given.lookup setting).isSome then .error .argumentConflict
  else if setting.isPath && value.isEmpty then .error .invalidValue
  else .ok { reading with given := (setting, value) :: reading.given }

/-- Takes over the value that is still to be taken over. -/
def settle (reading : ArgumentReading) : Except UsageFault ArgumentReading :=
  match reading.pending with
  | none => .ok reading
  | some (_, none) => .error .invalidValue
  | some (setting, some value) => { reading with pending := none }.take setting value

/-- Reads an option. -/
def readOption (reading : ArgumentReading) (name : List Char) (value : Option (List Char)) :
    Except UsageFault ArgumentReading :=
  match Setting.all.find? fun setting => setting.name.toList = name with
  | some setting => do
      match value with
      | some value => (← reading.settle).take setting (String.ofList value)
      | none => return { ← reading.settle with pending := some (setting, none) }
  | none =>
      if name = "help".toList then
        if value.isSome then .error .tooManyValues
        else do
          let _ ← reading.settle
          .error .helpWanted
      else .error .unknownArgument

/-- Reads letters after a single dash, of which only one has a meaning. -/
def readLetters (reading : ArgumentReading) (letters : List Char) :
    Except UsageFault ArgumentReading :=
  if letters.head? = some 'h' then do
    let _ ← reading.settle
    .error .helpWanted
  else .error .unknownArgument

/-- Reads an argument. -/
def read (reading : ArgumentReading) (argument : String) :
    Except UsageFault ArgumentReading :=
  if reading.ended then .error .unknownArgument
  else
    match ArgumentForm.of argument.toList with
    | .ending => .ok { reading with ended := true }
    | .option name value => reading.readOption name value
    | .letters letters => reading.readLetters letters
    | .value =>
        match reading.pending with
        | some (setting, none) => .ok { reading with pending := some (setting, some argument) }
        | _ => .error .unknownArgument

/-- The arguments that were read. -/
def arguments (reading : ArgumentReading) : Arguments where
  config := reading.given.lookup .config
  endpoint := reading.given.lookup .endpoint
  workspace := (reading.given.lookup .workspace).getD "."
  session := (reading.given.lookup .session).getD "cli"

end ArgumentReading

/-- The arguments that the words after the name of the program give. -/
def Arguments.parse (words : List String) : Except UsageFault Arguments := do
  return (← (← words.foldlM ArgumentReading.read {}).settle).arguments

end AssessmentChat.Console
