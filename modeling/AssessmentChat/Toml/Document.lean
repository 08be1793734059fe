import AssessmentChat.Toml.Table

namespace AssessmentChat.Toml

/-!
# TOML texts as tables

A text is cut into statements, each of which opens a table or gives a key its
value.  A value is gathered from its tokens in one pass that keeps the arrays
and tables still open.
-/

/-! ## Keys -/

/-- A piece of a key: a name, or the point between two of them. -/
inductive KeyPiece
  | name (name : String)
  | point
deriving Repr, DecidableEq

/-- The pieces of a word, after letters already read, which are given in reverse. -/
def wordPieces? (letters : List Char) : List Char → Option (List KeyPiece)
  | [] => some (named [])
  | '.' :: rest => do
      return named (.point :: (← wordPieces? [] rest))
  | letter :: rest => if isBare letter then wordPieces? (letter :: letters) rest else none
where
  /-- The pieces with the letters in front, if there are any. -/
  named (pieces : List KeyPiece) : List KeyPiece :=
    if letters.isEmpty then pieces else .name (String.ofList letters.reverse) :: pieces

/-- The pieces of a token. -/
def tokenPieces? : Token → Option (List KeyPiece)
  | .blank => some []
  | .word letters => wordPieces? [] letters
  | .line content => some [.name content]
  | _ => none

/-- The names of a key whose pieces alternate. -/
def keyNames? : List KeyPiece → Option (List String)
  | [.name name] => some [name]
  | .name name :: .point :: rest => do
      return name :: (← keyNames? rest)
  | _ => none

/-- The most names that a key may have, and the most arrays and tables inside each other. -/
def depthLimit : Nat := 79

/-- The key that tokens spell. -/
def key? (tokens : List Token) : Option (List String) := do
  let pieces ← tokens.mapM tokenPieces?
  let names ← keyNames? pieces.flatten
  if names.length ≤ depthLimit then some names else none

/-! ## Values -/

/-- An array or a table that is still open. -/
inductive Frame
  /-- The items so far, the latest first. -/
  | array (items : List Toml)
  /-- The fields so far, and the key of the value that comes next. -/
  | table (fields : Fields) (key : List String)
deriving Repr

/-- How much of a value has been gathered, by what may follow. -/
inductive Gathering
  | awaitingValue (frames : List Frame)
  /-- Inside an array, where a value or the end may follow. -/
  | awaitingItem (items : List Toml) (frames : List Frame)
  /-- Inside a table, with the tokens of the key so far, the latest first. -/
  | awaitingKey (fields : Fields) (mayEnd : Bool) (tokens : List Token) (frames : List Frame)
  | complete (value : Toml) (frames : List Frame)
deriving Repr

namespace Gathering

/-- The first token of a value. -/
def beginValue? (frames : List Frame) (token : Token) : Option Gathering :=
  match token with
  | .line content => some (.complete (.text content) frames)
  | .block content => some (.complete (.text content) frames)
  | .word letters => (Scalar.ofWord? letters).map fun value => .complete (.scalar value) frames
  | .openBracket => if frames.length < depthLimit then some (.awaitingItem [] frames) else none
  | .openBrace =>
      if frames.length < depthLimit then some (.awaitingKey [] true [] frames) else none
  | _ => none

/-- Whether a token is white space inside an array. -/
def isSpacing : Token → Bool
  | .blank => true
  | .newline => true
  | .comment => true
  | _ => false

/-- One more token of a value. -/
def accept? : Gathering → Token → Option Gathering
  | .awaitingValue frames, token =>
      if token = .blank then some (.awaitingValue frames) else beginValue? frames token
  | .awaitingItem items frames, token =>
      if isSpacing token then some (.awaitingItem items frames)
      else if token = .closeBracket then some (.complete (.array items.reverse) frames)
      else beginValue? (.array items :: frames) token
  | .awaitingKey fields mayEnd tokens frames, token =>
      if token = .equals then do
        return .awaitingValue (.table fields (← key? tokens.reverse) :: frames)
      else if token = .closeBrace then
        if mayEnd && tokens.all (· = .blank) then some (.complete (.table .braces fields) frames)
        else none
      else some (.awaitingKey fields mayEnd (token :: tokens) frames)
  | .complete value (.array items :: frames), token =>
      if isSpacing token then some (.complete value (.array items :: frames))
      else if token = .comma then some (.awaitingItem (value :: items) frames)
      else if token = .closeBracket then
        some (.complete (.array (value :: items).reverse) frames)
      else none
  | .complete value (.table fields key :: frames), token =>
      if token = .blank then some (.complete value (.table fields key :: frames))
      else if token = .comma then do
        return .awaitingKey (← fields.assign? value key) false [] frames
      else if token = .closeBrace then do
        return .complete (.table .braces (← fields.assign? value key)) frames
      else none
  | .complete value [], token =>
      if token = .blank || token = .comment then some (.complete value []) else none

end Gathering

/-- The value that tokens spell, a comment after it aside. -/
def value? (tokens : List Token) : Option Toml := do
  match ← tokens.foldlM Gathering.accept? (.awaitingValue []) with
  | .complete value [] => some value
  | _ => none

/-! ## Statements -/

/-- What a line says. -/
inductive Statement
  | header (path : List String)
  | anotherHeader (path : List String)
  | assignment (key : List String) (value : Toml)
deriving Repr

/-- Whether a token may follow a header. -/
def isTrailing (token : Token) : Bool :=
  token = .blank || token = .comment

/-- The tokens up to the first closing bracket, and those after it. -/
def untilBracket (tokens : List Token) : List Token × List Token :=
  (tokens.takeWhile (· ≠ .closeBracket), tokens.dropWhile (· ≠ .closeBracket))

/-- What the tokens of a line say that has any but blanks and a comment. -/
def Statement.ofTokens? : List Token → Option Statement
  | .openBracket :: .openBracket :: rest =>
      let (name, after) := untilBracket rest
      match after with
      | .closeBracket :: .closeBracket :: trailing =>
          if trailing.all isTrailing then (key? name).map .anotherHeader else none
      | _ => none
  | .openBracket :: rest =>
      let (name, after) := untilBracket rest
      match after with
      | .closeBracket :: trailing =>
          if trailing.all isTrailing then (key? name).map .header else none
      | _ => none
  | tokens => do
      let key ← key? (tokens.takeWhile (· ≠ .equals))
      match tokens.dropWhile (· ≠ .equals) with
      | .equals :: rest => return .assignment key (← value? rest)
      | _ => none

/--
The lines of tokens.  An end of line inside brackets does not end a statement,
so the brackets still open are counted.
-/
def statementTokens (openBrackets : Nat) (line : List Token) : List Token → List (List Token)
  | [] => [line.reverse]
  | .newline :: rest =>
      if openBrackets = 0 then line.reverse :: statementTokens 0 [] rest
      else statementTokens openBrackets (.newline :: line) rest
  | .openBracket :: rest => statementTokens (openBrackets + 1) (.openBracket :: line) rest
  | .closeBracket :: rest => statementTokens (openBrackets - 1) (.closeBracket :: line) rest
  | token :: rest => statementTokens openBrackets (token :: line) rest

/-- The statements of tokens, empty lines left out. -/
def statements? (tokens : List Token) : Option (List Statement) :=
  ((((statementTokens 0 [] tokens).map fun line => line.dropWhile (· = .blank)).filter
    fun line => !line.isEmpty && line ≠ [.comment])).mapM Statement.ofTokens?

/-- A document under construction: its fields and the path of the last header. -/
structure Draft where
  fields : Fields := []
  path : List String := []

/-- The document after one more statement. -/
def Draft.accept? (draft : Draft) : Statement → Option Draft
  | .header path => do
      return ⟨← draft.fields.open? path, path⟩
  | .anotherHeader path => do
      return ⟨← draft.fields.openAnother? path, path⟩
  | .assignment key value => do
      return ⟨← draft.fields.within? (fun fields => fields.assign? value key) draft.path,
        draft.path⟩

/-- The table that a text describes; there is none when it is no TOML. -/
def parse? (text : String) : Option Toml := do
  let statements ← statements? (← tokens? text)
  let draft ← statements.foldlM Draft.accept? {}
  return .table .header draft.fields

end AssessmentChat.Toml
