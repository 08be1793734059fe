namespace AssessmentChat.Toml

/-!
# TOML tokens

The lexical units of a TOML text.  Keys, numbers and dates are all words at this
level: whether a word is one or the other depends on where it stands.
-/

/-- A lexical unit of a TOML text. -/
inductive Token
  | openBracket
  | closeBracket
  | openBrace
  | closeBrace
  | comma
  | equals
  | blank
  | newline
  | comment
  | word (letters : List Char)
  /-- A string on one line, which can also be a key. -/
  | line (content : String)
  /-- A string between tripled quotes. -/
  | block (content : String)
deriving Repr, DecidableEq

/-! ## Characters -/

/-- Whether a character separates tokens on a line. -/
def isBlankSpace (character : Char) : Bool :=
  character = ' ' || character = '\t'

/-- Whether a character may stand in a comment, and in a string where nothing is escaped. -/
def isPrintable (character : Char) : Bool :=
  character = '\t' || (0x20 ≤ character.toNat && character.toNat ≠ 0x7F)

/-- Whether a character may stand in a key without quotes. -/
def isBare (character : Char) : Bool :=
  character.isAlphanum || character = '-' || character = '_'

/-- Whether a character may stand in a word. -/
def isWordCharacter (character : Char) : Bool :=
  isBare character || character = '.' || character = '+' || character = ':'

/-! ## Strings -/

/-- The value of hexadecimal digits. -/
def hexadecimal? (digits : List Char) : Option Nat :=
  digits.foldlM (fun value digit =>
    if '0' ≤ digit ∧ digit ≤ '9' then some (16 * value + (digit.toNat - 48))
    else if 'a' ≤ digit ∧ digit ≤ 'f' then some (16 * value + (digit.toNat - 87))
    else if 'A' ≤ digit ∧ digit ≤ 'F' then some (16 * value + (digit.toNat - 55))
    else none) 0

/-- The character whose code point hexadecimal digits give; halves of pairs are none. -/
def codePoint? (digits : List Char) : Option Char := do
  let value ← hexadecimal? digits
  if value.isValidChar then some (Char.ofNat value) else none

/-- The character of a two-character escape. -/
def escaped? : Char → Option Char
  | '"' => some '"'
  | '\\' => some '\\'
  | 'b' => some '\x08'
  | 'f' => some '\x0c'
  | 'n' => some '\n'
  | 'r' => some '\r'
  | 't' => some '\t'
  | _ => none

/-- The rest of a string in double quotes on one line, cut after the closing quote. -/
def quotedLine? (written : List Char) : List Char → Option (List Char × List Char)
  | [] => none
  | '"' :: rest => some (written.reverse, rest)
  | '\\' :: 'u' :: a :: b :: c :: d :: rest => do
      quotedLine? ((← codePoint? [a, b, c, d]) :: written) rest
  | '\\' :: 'U' :: a :: b :: c :: d :: e :: f :: g :: h :: rest => do
      quotedLine? ((← codePoint? [a, b, c, d, e, f, g, h]) :: written) rest
  | '\\' :: character :: rest => do
      quotedLine? ((← escaped? character) :: written) rest
  | character :: rest =>
      if isPrintable character && character ≠ '\\' then quotedLine? (character :: written) rest
      else none

/-- The rest of a string in single quotes on one line, cut after the closing quote. -/
def literalLine? (written : List Char) : List Char → Option (List Char × List Char)
  | [] => none
  | '\'' :: rest => some (written.reverse, rest)
  | character :: rest =>
      if isPrintable character then literalLine? (character :: written) rest else none

/-- Whether only blank space stands before the end of the line. -/
def endsLine : List Char → Bool
  | '\n' :: _ => true
  | '\r' :: '\n' :: _ => true
  | character :: rest => isBlankSpace character && endsLine rest
  | [] => false

/-- Up to two quotes that belong to the string although they touch its closing quotes. -/
def touching (quote : Char) (written : List Char) :
    List Char → List Char × List Char
  | first :: second :: rest =>
      if first = quote then
        if second = quote then ((quote :: quote :: written).reverse, rest)
        else ((quote :: written).reverse, second :: rest)
      else (written.reverse, first :: second :: rest)
  | [first] =>
      if first = quote then ((quote :: written).reverse, []) else (written.reverse, [first])
  | [] => (written.reverse, [])

/--
The rest of a string in tripled double quotes, cut after the closing quotes.  A
backslash at the end of a line drops the white space up to the next text.
-/
def quotedBlock? (dropping : Bool) (written : List Char) :
    List Char → Option (List Char × List Char)
  | [] => none
  | '"' :: '"' :: '"' :: rest => some (touching '"' written rest)
  | '\r' :: '\n' :: rest =>
      if dropping then quotedBlock? true written rest
      else quotedBlock? false ('\n' :: written) rest
  | '\\' :: 'u' :: a :: b :: c :: d :: rest => do
      quotedBlock? false ((← codePoint? [a, b, c, d]) :: written) rest
  | '\\' :: 'U' :: a :: b :: c :: d :: e :: f :: g :: h :: rest => do
      quotedBlock? false ((← codePoint? [a, b, c, d, e, f, g, h]) :: written) rest
  | '\\' :: character :: rest =>
      match escaped? character with
      | some meant => quotedBlock? false (meant :: written) rest
      | none =>
          if endsLine (character :: rest) then quotedBlock? true written (character :: rest)
          else none
  | character :: rest =>
      if dropping && (isBlankSpace character || character = '\n') then
        quotedBlock? true written rest
      else if (isPrintable character || character = '\n') && character ≠ '\\' then
        quotedBlock? false (character :: written) rest
      else none

/-- The rest of a string in tripled single quotes, cut after the closing quotes. -/
def literalBlock? (written : List Char) : List Char → Option (List Char × List Char)
  | [] => none
  | '\'' :: '\'' :: '\'' :: rest => some (touching '\'' written rest)
  | '\r' :: '\n' :: rest => literalBlock? ('\n' :: written) rest
  | character :: rest =>
      if isPrintable character || character = '\n' then literalBlock? (character :: written) rest
      else none

/-- A text without the end of line that it may begin with. -/
def withoutFirstNewline : List Char → List Char
  | '\n' :: rest => rest
  | '\r' :: '\n' :: rest => rest
  | characters => characters

/-! ## Words -/

/--
What of the text after a word belongs to it: a date takes the time that follows
it after one space.
-/
def timeAfter (letters : List Char) : List Char → List Char × List Char
  | ' ' :: a :: b :: ':' :: rest =>
      if letters.length = 10 && a.isDigit && b.isDigit && (letters.drop 4).head? = some '-' then
        (' ' :: a :: b :: ':' :: rest.takeWhile isWordCharacter, rest.dropWhile isWordCharacter)
      else ([], ' ' :: a :: b :: ':' :: rest)
  | rest => ([], rest)

/-- The word that a text begins with. -/
def nextWord (first : Char) (rest : List Char) : Token × List Char :=
  let letters := first :: rest.takeWhile isWordCharacter
  let (time, after) := timeAfter letters (rest.dropWhile isWordCharacter)
  (.word (letters ++ time), after)

/-- A string token with the text after it. -/
def lineToken (found : List Char × List Char) : Token × List Char :=
  (.line (String.ofList found.1), found.2)

/-- A string token with the text after it. -/
def blockToken (found : List Char × List Char) : Token × List Char :=
  (.block (String.ofList found.1), found.2)

/-- The token that a text begins with, and the text after it. -/
def nextToken? : List Char → Option (Token × List Char)
  | [] => none
  | '[' :: rest => some (.openBracket, rest)
  | ']' :: rest => some (.closeBracket, rest)
  | '\x7b' :: rest => some (.openBrace, rest)
  | '\x7d' :: rest => some (.closeBrace, rest)
  | ',' :: rest => some (.comma, rest)
  | '=' :: rest => some (.equals, rest)
  | '\n' :: rest => some (.newline, rest)
  | '\r' :: '\n' :: rest => some (.newline, rest)
  | '#' :: rest => some (.comment, rest.dropWhile isPrintable)
  | '"' :: '"' :: '"' :: rest =>
      (quotedBlock? false [] (withoutFirstNewline rest)).map blockToken
  | '"' :: rest => (quotedLine? [] rest).map lineToken
  | '\'' :: '\'' :: '\'' :: rest =>
      (literalBlock? [] (withoutFirstNewline rest)).map blockToken
  | '\'' :: rest => (literalLine? [] rest).map lineToken
  | first :: rest =>
      if isBlankSpace first then some (.blank, rest)
      else if isWordCharacter first then some (nextWord first rest)
      else none

/--
The tokens of a text, after those already found, which are given in reverse.
Every token takes a character, so a text has no more tokens than characters, and
as many steps are enough.
-/
def tokensAfter? (steps : Nat) (found : List Token) (characters : List Char) :
    Option (List Token) :=
  match characters, steps with
  | [], _ => some found.reverse
  | _ :: _, 0 => none
  | characters, steps + 1 =>
      match nextToken? characters with
      | some (token, rest) => tokensAfter? steps (token :: found) rest
      | none => none

/-- The tokens of a text, which may begin with a byte order mark. -/
def tokens? (text : String) : Option (List Token) :=
  let characters := text.toList
  let content := if characters.head? = some '\ufeff' then characters.drop 1 else characters
  tokensAfter? content.length [] content

end AssessmentChat.Toml
