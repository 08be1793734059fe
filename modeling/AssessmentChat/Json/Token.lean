import AssessmentChat.Json.Basic

namespace AssessmentChat.Json

/-!
# JSON tokens

The lexical units of a JSON text, how each is spelled, and how a text is cut
into them.  A string is spelled with the shortest escapes: two characters where
JSON has them, four hexadecimal digits for the other control characters, and
every other character as itself.
-/

/-- A lexical unit of a JSON text. -/
inductive Token
  | openArray
  | closeArray
  | openObject
  | closeObject
  | comma
  | colon
  | null
  | bool (value : Bool)
  | number (literal : String)
  | string (spelled : Spelled)
deriving Repr, DecidableEq

/-! ## Spelling -/

/-- The lower-case hexadecimal digit of a number below sixteen. -/
def hexDigit (value : Nat) : Char :=
  if value < 10 then Char.ofNat (48 + value) else Char.ofNat (87 + value)

/-- How a character is written inside a string. -/
def escape (character : Char) : List Char :=
  if character = '"' then ['\\', '"']
  else if character = '\\' then ['\\', '\\']
  else if character = '\x08' then ['\\', 'b']
  else if character = '\t' then ['\\', 't']
  else if character = '\n' then ['\\', 'n']
  else if character = '\x0c' then ['\\', 'f']
  else if character = '\r' then ['\\', 'r']
  else if character.toNat < 0x20 then
    ['\\', 'u', '0', '0', hexDigit (character.toNat / 16), hexDigit (character.toNat % 16)]
  else [character]

/-- A string between its quotes; one that spells no text is written as half a pair. -/
def quoted : Spelled → List Char
  | some content => '"' :: content.toList.flatMap escape ++ ['"']
  | none => "\"\\ud800\"".toList

/-- The characters of a token. -/
def Token.spelling : Token → List Char
  | .openArray => ['[']
  | .closeArray => [']']
  | .openObject => ['\x7b']
  | .closeObject => ['\x7d']
  | .comma => [',']
  | .colon => [':']
  | .null => "null".toList
  | .bool true => "true".toList
  | .bool false => "false".toList
  | .number literal => literal.toList
  | .string spelled => quoted spelled

/-! ## Strings -/

/-- A piece of a string: a character, or a code unit that is half of a surrogate pair. -/
inductive Piece
  | scalar (character : Char)
  | half (unit : Nat)
deriving Repr, DecidableEq

/-- Whether a code unit opens a surrogate pair. -/
def isHighHalf (unit : Nat) : Bool :=
  0xD800 ≤ unit && unit < 0xDC00

/-- Whether a code unit closes a surrogate pair. -/
def isLowHalf (unit : Nat) : Bool :=
  0xDC00 ≤ unit && unit < 0xE000

/-- The piece that a code unit stands for. -/
def Piece.ofUnit (unit : Nat) : Piece :=
  if isHighHalf unit || isLowHalf unit then .half unit else .scalar (Char.ofNat unit)

/-- The character of a surrogate pair. -/
def pairedCharacter (high low : Nat) : Char :=
  Char.ofNat (0x10000 + (high - 0xD800) * 0x400 + (low - 0xDC00))

/--
The characters that pieces spell, given in reverse; there are none when a half
has no partner.
-/
def joinPieces (joined : List Char) : List Piece → Option (List Char)
  | [] => some joined.reverse
  | .scalar character :: rest => joinPieces (character :: joined) rest
  | .half high :: .half low :: rest =>
      if isHighHalf high && isLowHalf low then
        joinPieces (pairedCharacter high low :: joined) rest
      else none
  | .half _ :: _ => none

/-- The value of a hexadecimal digit. -/
def hexValue? (character : Char) : Option Nat :=
  if '0' ≤ character ∧ character ≤ '9' then some (character.toNat - 48)
  else if 'a' ≤ character ∧ character ≤ 'f' then some (character.toNat - 87)
  else if 'A' ≤ character ∧ character ≤ 'F' then some (character.toNat - 55)
  else none

/-- The code unit of four hexadecimal digits. -/
def codeUnit? (first second third fourth : Char) : Option Nat := do
  let first ← hexValue? first
  let second ← hexValue? second
  let third ← hexValue? third
  let fourth ← hexValue? fourth
  return ((first * 16 + second) * 16 + third) * 16 + fourth

/-- The character of a two-character escape. -/
def shortEscape? : Char → Option Char
  | '"' => some '"'
  | '\\' => some '\\'
  | '/' => some '/'
  | 'b' => some '\x08'
  | 'f' => some '\x0c'
  | 'n' => some '\n'
  | 'r' => some '\r'
  | 't' => some '\t'
  | _ => none

/-- The text after the opening quote, cut at the closing one. -/
def stringBody? (pieces : List Piece) : List Char → Option (List Piece × List Char)
  | [] => none
  | '"' :: rest => some (pieces.reverse, rest)
  | '\\' :: 'u' :: first :: second :: third :: fourth :: rest => do
      stringBody? (Piece.ofUnit (← codeUnit? first second third fourth) :: pieces) rest
  | '\\' :: escaped :: rest => do
      stringBody? (.scalar (← shortEscape? escaped) :: pieces) rest
  | character :: rest =>
      if character.toNat < 0x20 || character = '\\' then none
      else stringBody? (.scalar character :: pieces) rest

/-- A string is followed by less text than it opened with. -/
theorem stringBody?_length {pieces : List Piece} {characters : List Char}
    {found : List Piece × List Char}
    (read : stringBody? pieces characters = some found) :
    found.2.length < characters.length := by
  fun_induction stringBody? pieces characters with
  | case1 => simp at read
  | case2 => simp_all only [Option.some.injEq, List.length_cons]; subst read; simp
  | case3 pieces first second third fourth rest inductionHypothesis =>
      simp only [bind, Option.bind] at read
      split at read
      · simp at read
      · have := inductionHypothesis _ read
        simp only [List.length_cons]
        omega
  | case4 pieces escaped rest _ inductionHypothesis =>
      simp only [bind, Option.bind] at read
      split at read
      · simp at read
      · have := inductionHypothesis _ read
        simp only [List.length_cons]
        omega
  | case5 => simp at read
  | case6 pieces character rest _ _ _ _ inductionHypothesis =>
      have := inductionHypothesis read
      simp only [List.length_cons]
      omega

/-! ## Numbers -/

/-- Whether a character can stand in a number. -/
def isNumeric (character : Char) : Bool :=
  character.isDigit || character = '-' || character = '+' || character = '.' ||
    character = 'e' || character = 'E'

/-- Whether characters are digits, and at least one. -/
def isDigits (characters : List Char) : Bool :=
  !characters.isEmpty && characters.all Char.isDigit

/-- Whether characters are an exponent or nothing. -/
def isExponent : List Char → Bool
  | [] => true
  | mark :: sign :: digits =>
      (mark = 'e' || mark = 'E') &&
        (if sign = '-' || sign = '+' then isDigits digits else isDigits (sign :: digits))
  | [_] => false

/-- Whether characters are a fraction and an exponent, each of which may be absent. -/
def isFraction : List Char → Bool
  | '.' :: rest =>
      !(rest.takeWhile Char.isDigit).isEmpty && isExponent (rest.dropWhile Char.isDigit)
  | rest => isExponent rest

/-- The characters without a leading minus sign. -/
def unsigned : List Char → List Char
  | '-' :: rest => rest
  | characters => characters

/-- Whether characters are digits without a needless zero in front. -/
def isWhole : List Char → Bool
  | [] => false
  | first :: rest => first != '0' || rest.isEmpty

/-- Whether characters are a JSON number. -/
def isNumber (literal : List Char) : Bool :=
  isWhole ((unsigned literal).takeWhile Char.isDigit) &&
    isFraction ((unsigned literal).dropWhile Char.isDigit)

/-! ## Cutting a text into tokens -/

/-- Whether a character may stand between tokens. -/
def isSpace (character : Char) : Bool :=
  character = ' ' || character = '\t' || character = '\n' || character = '\r'

/-- The token of a punctuation character. -/
def punctuation? : Char → Option Token
  | '[' => some .openArray
  | ']' => some .closeArray
  | '\x7b' => some .openObject
  | '\x7d' => some .closeObject
  | ',' => some .comma
  | ':' => some .colon
  | _ => none

/-- The token of a word. -/
def word? (letters : List Char) : Option Token :=
  if letters = "null".toList then some .null
  else if letters = "true".toList then some (.bool true)
  else if letters = "false".toList then some (.bool false)
  else none

/-- The token that a text begins with, and the text after it. -/
def nextToken? : List Char → Option (Token × List Char)
  | [] => none
  | first :: rest =>
      match punctuation? first with
      | some token => some (token, rest)
      | none =>
          if first = '"' then do
            let (pieces, after) ← stringBody? [] rest
            return (.string ((joinPieces [] pieces).map String.ofList), after)
          else if isNumeric first then
            let literal := first :: rest.takeWhile isNumeric
            if isNumber literal then
              some (.number (String.ofList literal), rest.dropWhile isNumeric)
            else none
          else do
            let token ← word? (first :: rest.takeWhile Char.isAlpha)
            return (token, rest.dropWhile Char.isAlpha)

/-- A token takes at least one character. -/
theorem nextToken?_length {characters : List Char} {found : Token × List Char}
    (read : nextToken? characters = some found) :
    found.2.length < characters.length := by
  unfold nextToken? at read
  split at read
  · simp at read
  · split at read
    · simp only [Option.some.injEq] at read
      subst read
      simp
    · split at read
      · simp only [bind, Option.bind] at read
        split at read
        · simp at read
        · rename_i body
          simp only [pure, Option.some.injEq] at read
          subst read
          have := stringBody?_length body
          simp only [List.length_cons]
          omega
      · split at read
        · simp only at read
          split at read
          · simp only [Option.some.injEq] at read
            subst read
            have := (List.dropWhile_sublist isNumeric (l := ‹List Char›)).length_le
            simp only [List.length_cons]
            omega
          · simp at read
        · simp only [bind, Option.bind] at read
          split at read
          · simp at read
          · simp only [pure, Option.some.injEq] at read
            subst read
            have := (List.dropWhile_sublist Char.isAlpha (l := ‹List Char›)).length_le
            simp only [List.length_cons]
            omega

/-- The tokens of a text, after those already found, which are given in reverse. -/
def tokensAfter? (found : List Token) (characters : List Char) : Option (List Token) :=
  match characters with
  | [] => some found.reverse
  | first :: rest =>
      if isSpace first then tokensAfter? found rest
      else
        match _read : nextToken? (first :: rest) with
        | some (token, after) => tokensAfter? (token :: found) after
        | none => none
termination_by characters.length
decreasing_by
  · simp
  · exact nextToken?_length _read

/-- The tokens of a text; there are none when it is not made of tokens. -/
def tokens? (text : String) : Option (List Token) :=
  tokensAfter? [] text.toList

end AssessmentChat.Json
